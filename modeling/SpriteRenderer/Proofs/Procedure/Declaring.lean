import Mathlib.Data.List.Nodup
import SpriteRenderer.Context
import SpriteRenderer.Proofs.Procedure.Building

/-! # Declared functions

A builder keeps what it has declared twice, as a list and by identities. Both are what its calls
make of them, so they agree after any mix of calls of functions and of their copies. -/

namespace SpriteRenderer.ProcedureBuilder

/-! ## Lists without copies -/

/-- Adds a function unless it, or a copy of it, is there already. -/
def declare (declared : List Function) (f : Function) : List Function :=
  if declared.any (·.id = f.id) then declared else declared ++ [f]

theorem declare_of_mem {fs : List Function} {f : Function} (known : f.id ∈ fs.map (·.id)) :
    declare fs f = fs := by
  obtain ⟨g, hg, same⟩ := List.mem_map.mp known
  exact if_pos (List.any_eq_true.mpr ⟨g, hg, decide_eq_true same⟩)

theorem declare_of_notMem {fs : List Function} {f : Function} (new : f.id ∉ fs.map (·.id)) :
    declare fs f = fs ++ [f] := by
  refine if_neg fun known => new ?_
  obtain ⟨g, hg, same⟩ := List.any_eq_true.mp known
  exact List.mem_map.mpr ⟨g, hg, of_decide_eq_true same⟩

theorem mem_ids_declare {fs : List Function} {f : Function} {i : Nat} :
    i ∈ (declare fs f).map (·.id) ↔ i = f.id ∨ i ∈ fs.map (·.id) := by
  by_cases known : f.id ∈ fs.map (·.id)
  · rw [declare_of_mem known]
    refine ⟨.inr, ?_⟩
    rintro (rfl | listed)
    · exact known
    · exact listed
  · rw [declare_of_notMem known, List.map_append, List.mem_append, Or.comm]
    simp

theorem nodup_declare {fs : List Function} (distinct : (fs.map (·.id)).Nodup) (f : Function) :
    ((declare fs f).map (·.id)).Nodup := by
  by_cases known : f.id ∈ fs.map (·.id)
  · rwa [declare_of_mem known]
  · rw [declare_of_notMem known, List.map_append]
    exact List.nodup_append_comm.mp (List.nodup_cons.mpr ⟨known, distinct⟩)

theorem declare_spec (fs : List Function) (f : Function) :
    fs ⊆ declare fs f ∧ (∃ g ∈ declare fs f, g.id = f.id) ∧
      ∀ g ∈ declare fs f, g ∈ fs ∨ g = f := by
  unfold declare
  split
  case isTrue found =>
      obtain ⟨g, hg, same⟩ := List.any_eq_true.mp found
      exact ⟨fun _ => id, ⟨g, hg, by simpa using same⟩, fun _ => .inl⟩
  case isFalse =>
      refine ⟨List.subset_append_left _ _, ⟨f, by simp, rfl⟩, fun g hg => ?_⟩
      simpa using hg

theorem foldl_declare (fs gs : List Function) :
    gs ⊆ fs.foldl declare gs ∧ (∀ f ∈ fs, ∃ g ∈ fs.foldl declare gs, g.id = f.id) ∧
      ∀ g ∈ fs.foldl declare gs, g ∈ gs ∨ g ∈ fs := by
  induction fs generalizing gs with
  | nil => exact ⟨fun _ => id, fun f hf => (List.not_mem_nil hf).elim, fun _ => .inl⟩
  | cons f fs ih =>
      obtain ⟨keeps, declares, only⟩ := ih (declare gs f)
      obtain ⟨keeps', ⟨g, hg, same⟩, only'⟩ := declare_spec gs f
      rw [List.foldl_cons]
      refine ⟨fun x hx => keeps (keeps' hx), fun x hx => ?_, fun x hx => ?_⟩
      · rcases List.mem_cons.mp hx with rfl | hx
        · exact ⟨g, keeps hg, same⟩
        · exact declares x hx
      · rcases only x hx with hx | hx
        · rcases only' x hx with hx | rfl
          · exact .inl hx
          · exact .inr List.mem_cons_self
        · exact .inr (List.mem_cons_of_mem f hx)

theorem nodup_foldl_declare (fs : List Function) {gs : List Function}
    (distinct : (gs.map (·.id)).Nodup) : ((fs.foldl declare gs).map (·.id)).Nodup := by
  induction fs generalizing gs with
  | nil => exact distinct
  | cons f fs ih => exact ih (nodup_declare distinct f)

/-! ## Builders -/

/-- A builder has declared what its calls declare, and has the identities of this. -/
structure Tallied (b : ProcedureBuilder) : Prop where
  functions : b.functions = (b.calls.map (·.function)).foldl declare []
  ids : ∀ i, i ∈ b.functionIds ↔ i ∈ b.functions.map (·.id)

namespace Tallied

variable {b b' : ProcedureBuilder}

theorem new (c : Context) (session : Nat) : (c.builder session).Tallied where
  functions := rfl
  ids i := iff_of_false (Table.not_mem_empty i) List.not_mem_nil

/-! ### Steps that call nothing -/

theorem addAttribute (h : b.Tallied) (type : ShaderType) : (b.addAttribute type).2.Tallied :=
  ⟨h.functions, h.ids⟩

theorem addOperation (h : b.Tallied) (type : ShaderType) : (b.addOperation type).2.Tallied :=
  ⟨h.functions, h.ids⟩

theorem addIntermediate (h : b.Tallied) (type : ShaderType) (expression : Option String) :
    (b.addIntermediate type expression).2.Tallied :=
  ⟨h.functions, h.ids⟩

theorem withOutputs (h : b.Tallied) (outputs : Table Output Channel) :
    { b with outputs }.Tallied :=
  ⟨h.functions, h.ids⟩

/-! ### Calls -/

/-- The set of identities tells what the list has, so the list is asked for copies. -/
theorem functions_withCall (h : b.Tallied) (c : Call) :
    (b.withCall c).functions = declare b.functions c.function := by
  by_cases known : c.function.id ∈ b.functionIds
  · rw [declare_of_mem ((h.ids _).mp known)]
    exact if_pos known
  · rw [declare_of_notMem (mt (h.ids _).mpr known)]
    exact if_neg known

theorem withCall (h : b.Tallied) (c : Call) : (b.withCall c).Tallied where
  functions := by
    rw [h.functions_withCall, h.functions]
    simp [ProcedureBuilder.withCall]
  ids i := by
    rw [h.functions_withCall, mem_ids_declare, ← h.ids]
    exact Table.mem_insert

theorem nodup (h : b.Tallied) : (b.functions.map (·.id)).Nodup := by
  rw [h.functions]
  exact nodup_foldl_declare _ List.nodup_nil

/-- What is declared has been called. -/
theorem exists_call (h : b.Tallied) {f : Function} (declared : f ∈ b.functions) :
    ∃ call ∈ b.calls, call.function = f := by
  rw [h.functions] at declared
  rcases (foldl_declare _ _).2.2 f declared with none | called
  · exact (List.not_mem_nil none).elim
  · exact List.mem_map.mp called

/-- Every function that is called is declared, it or a copy of it. -/
theorem exists_mem_functions (h : b.Tallied) {call : Call} (called : call ∈ b.calls) :
    ∃ g ∈ b.functions, g.id = call.function.id := by
  rw [h.functions]
  exact (foldl_declare _ _).2.1 _ (List.mem_map_of_mem called)

end Tallied

end SpriteRenderer.ProcedureBuilder
