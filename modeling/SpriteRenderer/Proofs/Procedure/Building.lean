import Mathlib.Logic.Basic
import SpriteRenderer.Proofs.Action.Results
import SpriteRenderer.Procedure.Composition

/-! # Steps of builders

What a builder has checked once it has accepted a step, and what it answers to right and to wrong
arguments. -/

namespace SpriteRenderer.ProcedureBuilder

variable {b b' : ProcedureBuilder}

theorem owns_iff {c : Channel} : b.owns c = true ↔ c.session = b.session := by
  simp [owns]

theorem forall_of_checkArguments {function : String} {i : Nat}
    {arguments : List (ShaderType × Channel)}
    (h : b.checkArguments function i arguments = .ok ()) :
    ∀ a ∈ arguments, a.2.session = b.session ∧ a.1 = a.2.type := by
  induction arguments generalizing i with
  | nil =>
      intro a ha
      cases ha
  | cons first rest ih =>
      obtain ⟨expected, c⟩ := first
      unfold checkArguments at h
      by_cases owned : b.owns c
      · by_cases typed : expected = c.type
        · simp only [owned, typed, Bool.not_true, Bool.false_eq_true, if_false, ne_eq,
            not_true] at h
          intro a ha
          rcases List.mem_cons.mp ha with rfl | ha
          · exact ⟨owns_iff.mp owned, typed⟩
          · exact ih h a ha
        · simp [owned, typed] at h
      · simp [owned] at h

/-- The arguments of an accepted call are channels of the builder, of the types of the
parameters. -/
theorem eq_of_call {f : Function} {arguments : List Channel} (h : b.call f arguments = .ok b') :
    b' = b.withCall ⟨f, arguments⟩ ∧
      (∀ c ∈ arguments, c.session = b.session) ∧
      f.parameters = arguments.map (·.type) := by
  unfold call at h
  obtain ⟨arity, h⟩ := Result.check_eq_ok h
  obtain ⟨_, checked, h⟩ := Result.bind_eq_ok h
  cases h
  have same : f.parameters.length = arguments.length := not_not.mp arity
  have passed := forall_of_checkArguments checked
  have firsts : (f.parameters.zip arguments).map (·.1) = f.parameters :=
    List.map_fst_zip (by omega)
  have seconds : (f.parameters.zip arguments).map (·.2) = arguments :=
    List.map_snd_zip (by omega)
  refine ⟨rfl, fun c hc => ?_, ?_⟩
  · rw [← seconds] at hc
    obtain ⟨a, ha, rfl⟩ := List.mem_map.mp hc
    exact (passed a ha).1
  · calc f.parameters
      _ = (f.parameters.zip arguments).map (·.1) := firsts.symm
      _ = (f.parameters.zip arguments).map (·.2.type) :=
        List.map_congr_left fun a ha => (passed a ha).2
      _ = ((f.parameters.zip arguments).map (·.2)).map (·.type) := by rw [List.map_map]; rfl
      _ = arguments.map (·.type) := by rw [seconds]

theorem eq_of_setOutput {o : Output} {c : Channel} (h : b.setOutput o c = .ok b') :
    b' = { b with outputs := b.outputs.insert o c } ∧ c.session = b.session ∧
      c.type = o.requiredType := by
  unfold setOutput at h
  by_cases owned : b.owns c
  · by_cases typed : c.type = o.requiredType
    · simp only [owned, typed, Bool.not_true, Bool.false_eq_true, if_false, ne_eq, not_true,
        Except.ok.injEq] at h
      exact ⟨h.symm, owns_iff.mp owned, typed⟩
    · simp [owned, typed] at h
  · simp [owned] at h

/-! ## Right and wrong arguments -/

theorem setOutput_of_foreign {c : Channel} (foreign : b.owns c = false) (o : Output) :
    b.setOutput o c = .error .foreignChannel := by
  simp [setOutput, foreign]

/-- Right arguments are passed over. -/
theorem checkArguments_drop {function : String} {i k : Nat}
    {arguments : List (ShaderType × Channel)}
    (earlier : ∀ j < i, ∀ a, arguments[j]? = some a → b.owns a.2 = true ∧ a.1 = a.2.type) :
    b.checkArguments function k arguments =
      b.checkArguments function (k + i) (arguments.drop i) := by
  induction arguments generalizing i k with
  | nil => simp [checkArguments]
  | cons first rest ih =>
      obtain ⟨expected, d⟩ := first
      cases i with
      | zero => rfl
      | succ i =>
          obtain ⟨owned, rfl⟩ : b.owns d = true ∧ expected = d.type := earlier 0 i.succ_pos _ rfl
          have after := ih (i := i) (k := k + 1) fun j hj a ha =>
            earlier (j + 1) (Nat.succ_lt_succ hj) a (by simpa using ha)
          rw [List.drop_succ_cons, ← Nat.add_assoc, Nat.add_right_comm, ← after]
          simp [checkArguments, owned]

section

variable {f : Function} {arguments : List Channel} {i : Nat} {c : Channel}

theorem call_of_arity (different : f.parameters.length ≠ arguments.length) :
    b.call f arguments =
      .error (.arityMismatch f.name f.parameters.length arguments.length) := by
  rw [call, if_pos different]
  rfl

/-- If there is an argument for each parameter, and those before a position are right, then the
arguments from the position on decide. -/
theorem call_of_earlier (arity : f.parameters.length = arguments.length)
    (earlier : ∀ j < i, ∀ a type, arguments[j]? = some a → f.parameters[j]? = some type →
      b.owns a = true ∧ type = a.type) :
    b.call f arguments =
      (b.checkArguments f.name i ((f.parameters.zip arguments).drop i)).map
        fun _ => b.withCall ⟨f, arguments⟩ := by
  have passedOver : b.checkArguments f.name 0 (f.parameters.zip arguments) =
      b.checkArguments f.name (0 + i) ((f.parameters.zip arguments).drop i) :=
    checkArguments_drop fun j hj a ha =>
      earlier j hj a.2 a.1 (List.getElem?_zip_eq_some.mp ha).2 (List.getElem?_zip_eq_some.mp ha).1
  rw [call, if_neg (not_not.mpr arity), passedOver, Nat.zero_add]
  cases b.checkArguments f.name i ((f.parameters.zip arguments).drop i) <;> rfl

theorem call_of_right (arity : f.parameters.length = arguments.length)
    (right : ∀ (j : Nat) a type, arguments[j]? = some a → f.parameters[j]? = some type →
      b.owns a = true ∧ type = a.type) :
    b.call f arguments = .ok (b.withCall ⟨f, arguments⟩) := by
  have passed : (f.parameters.zip arguments).drop arguments.length = [] :=
    List.drop_eq_nil_of_le (by simp [arity])
  rw [call_of_earlier arity fun j _ => right j, passed]
  rfl

/-- What is checked from a position on, if it has an argument. -/
theorem drop_zip_eq (arity : f.parameters.length = arguments.length)
    (passed : arguments[i]? = some c) :
    ∃ type, f.parameters[i]? = some type ∧ (f.parameters.zip arguments).drop i =
      (type, c) :: (f.parameters.zip arguments).drop (i + 1) := by
  obtain ⟨inside, rfl⟩ := List.getElem?_eq_some_iff.mp passed
  refine ⟨f.parameters[i], List.getElem?_eq_getElem _, ?_⟩
  rw [List.drop_eq_getElem_cons (by simpa [arity] using inside), List.getElem_zip]

/-- The first wrong argument is reported as foreign, whatever its type is. -/
theorem call_of_foreign (arity : f.parameters.length = arguments.length)
    (passed : arguments[i]? = some c) (foreign : b.owns c = false)
    (earlier : ∀ j < i, ∀ a type, arguments[j]? = some a → f.parameters[j]? = some type →
      b.owns a = true ∧ type = a.type) :
    b.call f arguments = .error .foreignChannel := by
  obtain ⟨type, -, here⟩ := drop_zip_eq arity passed
  rw [call_of_earlier arity earlier, here, checkArguments, foreign]
  rfl

/-- The first wrong argument is reported with its position, if it is of another type. -/
theorem call_of_mistyped {type : ShaderType} (arity : f.parameters.length = arguments.length)
    (wanted : f.parameters[i]? = some type) (passed : arguments[i]? = some c)
    (owned : b.owns c = true) (other : type ≠ c.type)
    (earlier : ∀ j < i, ∀ a type, arguments[j]? = some a → f.parameters[j]? = some type →
      b.owns a = true ∧ type = a.type) :
    b.call f arguments = .error (.typeMismatch f.name i type c.type) := by
  obtain ⟨type', same, here⟩ := drop_zip_eq arity passed
  obtain rfl : type' = type := Option.some.inj (same.symm.trans wanted)
  rw [call_of_earlier arity earlier, here, checkArguments, owned]
  simp [other, Except.map]

end

/-! ## Composition -/

/-- A composed shader takes its parts from the builder. -/
theorem eq_of_compose {shader : ComposedShader} (h : b.compose = .ok shader) :
    b.missingOutput? = none ∧ shader =
      { vertexSource := b.templates.vertex.render b.slotText
        fragmentSource := b.templates.fragment.render fun _ => b.glslVersion
        attributes := b.attributeBindings
        uniforms := b.uniforms
        session := b.session } := by
  unfold compose at h
  split at h
  case h_1 => cases h
  case h_2 complete =>
      cases h
      exact ⟨complete, rfl⟩

end SpriteRenderer.ProcedureBuilder
