import Mathlib.Data.Nat.Find
import SpriteRenderer.Proofs.Procedure.Lineage

/-! # Checked calls

A builder accepts a call exactly if it type-checks, and reports the first fault of every other call.
It declares a function with the first accepted call of it or of one of its copies. -/

namespace SpriteRenderer

namespace ProcedureBuilder

/-! ## Calls that type-check -/

section

variable {own : Channel → Prop} {f : Function} {arguments : List Channel} {i : Nat}
  {b b' : ProcedureBuilder}

/-- The argument at a position is one of the own channels, and of the type of the parameter. -/
def FitsAt (own : Channel → Prop) (f : Function) (arguments : List Channel) (i : Nat) : Prop :=
  ∀ type c, f.parameters[i]? = some type → arguments[i]? = some c → own c ∧ type = c.type

structure TypeChecks (own : Channel → Prop) (f : Function) (arguments : List Channel) : Prop where
  arity : f.parameters.length = arguments.length
  fits : ∀ i, FitsAt own f arguments i

/-- The first fault of a call. Lengths are compared before any channel is looked at, then the least
position that does not fit decides. Its owner counts before its type. -/
inductive Fault (own : Channel → Prop) (f : Function) (arguments : List Channel) :
    RenderError → Prop where
  | arity (different : f.parameters.length ≠ arguments.length) :
      Fault own f arguments (.arityMismatch f.name f.parameters.length arguments.length)
  | foreign {i c} (arity : f.parameters.length = arguments.length)
      (earlier : ∀ j < i, FitsAt own f arguments j) (passed : arguments[i]? = some c)
      (foreign : ¬ own c) : Fault own f arguments .foreignChannel
  | mistyped {i type c} (arity : f.parameters.length = arguments.length)
      (earlier : ∀ j < i, FitsAt own f arguments j) (wanted : f.parameters[i]? = some type)
      (passed : arguments[i]? = some c) (owned : own c) (other : type ≠ c.type) :
      Fault own f arguments (.typeMismatch f.name i type c.type)

theorem typeChecks_or_fault (own : Channel → Prop) (f : Function) (arguments : List Channel) :
    TypeChecks own f arguments ∨ ∃ e, Fault own f arguments e := by
  classical
  by_cases arity : f.parameters.length = arguments.length
  case neg => exact .inr ⟨_, .arity arity⟩
  by_cases fits : ∀ i, FitsAt own f arguments i
  case pos => exact .inl ⟨arity, fits⟩
  obtain ⟨i, first, earlier⟩ :
      ∃ i, ¬ FitsAt own f arguments i ∧ ∀ j < i, FitsAt own f arguments j := by
    have misfit : ∃ i, ¬ FitsAt own f arguments i := not_forall.mp fits
    exact ⟨Nat.find misfit, Nat.find_spec misfit, fun j hj =>
      not_not.mp (Nat.find_min misfit hj)⟩
  unfold FitsAt at first
  push Not at first
  obtain ⟨type, c, wanted, passed, wrong⟩ := first
  by_cases owned : own c
  · exact .inr ⟨_, .mistyped arity earlier wanted passed owned (wrong owned)⟩
  · exact .inr ⟨_, .foreign arity earlier passed owned⟩

theorem FitsAt.owns (fits : FitsAt own f arguments i)
    (owners : ∀ c ∈ arguments, own c ↔ b.owns c = true) (a : Channel) (type : ShaderType)
    (passed : arguments[i]? = some a) (wanted : f.parameters[i]? = some type) :
    b.owns a = true ∧ type = a.type := by
  obtain ⟨owned, typed⟩ := fits type a wanted passed
  exact ⟨(owners a (List.mem_of_getElem? passed)).mp owned, typed⟩

theorem call_of_typeChecks (owners : ∀ c ∈ arguments, own c ↔ b.owns c = true)
    (h : TypeChecks own f arguments) : b.call f arguments = .ok (b.withCall ⟨f, arguments⟩) :=
  call_of_right h.arity fun j => (h.fits j).owns owners

theorem call_of_fault (owners : ∀ c ∈ arguments, own c ↔ b.owns c = true) {e : RenderError}
    (h : Fault own f arguments e) : b.call f arguments = .error e := by
  cases h with
  | arity different => exact call_of_arity different
  | foreign arity earlier passed foreign =>
      have notOwned := mt (owners _ (List.mem_of_getElem? passed)).mpr foreign
      exact call_of_foreign arity passed (Bool.eq_false_iff.mpr notOwned) fun j hj =>
        (earlier j hj).owns owners
  | mistyped arity earlier wanted passed owned other =>
      have owned := (owners _ (List.mem_of_getElem? passed)).mp owned
      exact call_of_mistyped arity wanted passed owned other fun j hj =>
        (earlier j hj).owns owners

theorem exists_call_iff (owners : ∀ c ∈ arguments, own c ↔ b.owns c = true) :
    (∃ b', b.call f arguments = .ok b') ↔ TypeChecks own f arguments := by
  refine ⟨?_, fun h => ⟨_, call_of_typeChecks owners h⟩⟩
  rintro ⟨b', called⟩
  rcases typeChecks_or_fault own f arguments with right | ⟨e, fault⟩
  · exact right
  · rw [call_of_fault owners fault] at called
    cases called

theorem call_eq_error_iff (owners : ∀ c ∈ arguments, own c ↔ b.owns c = true)
    {e : RenderError} : b.call f arguments = .error e ↔ Fault own f arguments e := by
  refine ⟨fun refused => ?_, call_of_fault owners⟩
  rcases typeChecks_or_fault own f arguments with right | ⟨e', fault⟩
  · rw [call_of_typeChecks owners right] at refused
    cases refused
  · rw [call_of_fault owners fault] at refused
    cases refused
    exact fault

end

end ProcedureBuilder

/-! ## What calls declare -/

/-- The function, or a copy of it, has been called. -/
def Entry.Called (es : List Entry) (f : Function) : Prop :=
  ∃ c ∈ es.filterMap Entry.call?, c.function.id = f.id

instance (es : List Entry) (f : Function) : Decidable (Entry.Called es f) :=
  inferInstanceAs (Decidable (∃ c ∈ es.filterMap Entry.call?, c.function.id = f.id))

namespace ProcedureBuilder

/-- What a call adds to a builder with a record: itself, and its function if this is the first
call of it. -/
structure Adds (es : List Entry) (c : Call) (b b' : ProcedureBuilder) : Prop where
  calls : b'.calls = b.calls ++ [c]
  first : ¬ Entry.Called es c.function → b'.functions = b.functions ++ [c.function]
  again : Entry.Called es c.function → b'.functions = b.functions
  ids : ∀ i, i ∈ b'.functionIds ↔ i = c.function.id ∨ i ∈ b.functionIds
  rest : b' =
    { b with functions := b'.functions, functionIds := b'.functionIds, calls := b'.calls }

/-- The functions that are declared are those that are called, each once, and are known by their
identities. -/
structure DeclaresOnce (es : List Entry) (b : ProcedureBuilder) : Prop where
  calls : b.calls = es.filterMap Entry.call?
  /-- No function is declared beside itself or a copy of it. -/
  distinct : (b.functions.map (·.id)).Nodup
  called : ∀ f, f ∈ b.functions ↔ ∃ c ∈ b.calls, c.function = f
  ids : ∀ i, i ∈ b.functionIds ↔ i ∈ b.functions.map (·.id)

namespace Records

variable {context : Context} {es : List Entry} {b : ProcedureBuilder}

/-- A function is declared exactly if it, or a copy of it, has been called. -/
theorem called_iff (h : b.Records context es) (f : Function) :
    Entry.Called es f ↔ f.id ∈ b.functions.map (·.id) := by
  rw [Entry.Called, ← h.calls]
  constructor
  · rintro ⟨c, called, same⟩
    obtain ⟨g, declared, copy⟩ := h.tallied.exists_mem_functions called
    exact List.mem_map.mpr ⟨g, declared, copy.trans same⟩
  · intro known
    obtain ⟨g, declared, same⟩ := List.mem_map.mp known
    obtain ⟨c, called, rfl⟩ := h.tallied.exists_call declared
    exact ⟨c, called, same⟩

theorem adds_withCall (h : b.Records context es) (c : Call) : b.Adds es c (b.withCall c) where
  calls := rfl
  first new := by
    rw [h.called_iff] at new
    rw [h.tallied.functions_withCall, declare_of_notMem new]
  again called := by
    rw [h.called_iff] at called
    rw [h.tallied.functions_withCall, declare_of_mem called]
  ids _ := Table.mem_insert
  rest := rfl

theorem declaresOnce (h : b.Records context es)
    (identified : ∀ c ∈ b.calls, ∀ d ∈ b.calls, c.function.id = d.function.id →
      c.function = d.function) : b.DeclaresOnce es where
  calls := h.calls
  distinct := h.tallied.nodup
  called f := by
    refine ⟨h.tallied.exists_call, ?_⟩
    rintro ⟨c, called, rfl⟩
    obtain ⟨g, declared, same⟩ := h.tallied.exists_mem_functions called
    obtain ⟨d, called', rfl⟩ := h.tallied.exists_call declared
    rwa [← identified d called' c called same]
  ids := h.tallied.ids

end Records

end ProcedureBuilder

/-! ## Functions and their copies -/

namespace Script

variable {δ ℓ : Type}

/-- The function that is made at a moment. Copies are not made anew. -/
def Moment.function? (m : Moment δ ℓ) : Option Function :=
  match m.step, m.answer with
  | .newFunction .., .ok (.function f) => some f
  | _, _ => none

/-- The functions that were made, in their order. -/
def made (ms : List (Moment δ ℓ)) : List Function := ms.filterMap Moment.function?

theorem made_append (ms : List (Moment δ ℓ)) (m : Moment δ ℓ) :
    made (ms ++ [m]) = made ms ++ m.function?.toList := by
  rw [made, List.filterMap_append]
  cases new : m.function? <;> simp [made, new]

theorem Moment.function?_of_isQuery {step : Step} (query : step.isQuery) (s : Scene δ ℓ)
    (r : Except StepError Answer) : Moment.function? ⟨s, step, r⟩ = none := by
  cases step <;> first | rfl | cases query

theorem Moment.function?_of_error (s : Scene δ ℓ) (step : Step) (e : StepError) :
    Moment.function? ⟨s, step, .error e⟩ = none := by
  cases step <;> rfl

end Script

namespace Scene

open Script (Moment Transition made)

variable {δ ℓ : Type}

/-- The functions of a scene, and those of its calls, are functions that were made or copies of
such. Identities tell apart what was made. -/
structure Copies (fs : List Function) (s : Scene δ ℓ) : Prop where
  distinct : (fs.map (·.id)).Nodup
  numbered : ∀ f ∈ fs, f.id < s.nextFunction
  named : s.functions.All fun _ f => f ∈ fs
  called : s.builders.All fun _ b => ∀ c ∈ b.calls, c.function ∈ fs

namespace Copies

variable {fs : List Function} {ms : List (Moment δ ℓ)} {m : Moment δ ℓ} {s s' : Scene δ ℓ}

/-- A moment at which no function is made. -/
theorem frame (h : s.Copies (made ms)) (silent : m.function? = none)
    (next : s'.nextFunction = s.nextFunction)
    (named : s'.functions.All fun _ f => f ∈ made ms)
    (called : s'.builders.All fun _ b => ∀ c ∈ b.calls, c.function ∈ made ms) :
    s'.Copies (made (ms ++ [m])) := by
  rw [Script.made_append, silent, Option.toList_none, List.append_nil]
  exact ⟨h.distinct, next ▸ h.numbered, named, called⟩

theorem newFunction (h : s.Copies fs) {f : Function} (new : f.id = s.nextFunction)
    (as : String) : Copies (fs ++ [f])
      { s with nextFunction := s.nextFunction + 1, functions := s.functions.insert as f } := by
  have fresh : f.id ∉ fs.map (·.id) := by
    intro known
    obtain ⟨g, hg, same⟩ := List.mem_map.mp known
    have below := h.numbered g hg
    omega
  refine ⟨?_, fun g hg => ?_, ?_, ?_⟩
  · rw [List.map_append]
    exact List.nodup_append_comm.mp (List.nodup_cons.mpr ⟨fresh, h.distinct⟩)
  · rcases List.mem_append.mp hg with old | added
    · exact Nat.lt_succ_of_lt (h.numbered g old)
    · rw [List.mem_singleton.mp added, new]
      exact Nat.lt_succ_self _
  · exact (h.named.mono fun _ _ _ => List.mem_append_left _).insert (by simp)
  · exact h.called.mono fun _ _ _ known c hc => List.mem_append_left _ (known c hc)

/-- What is called has been made. -/
theorem withCall (h : s.Copies fs) {name function : String} {b : ProcedureBuilder} {f : Function}
    (found : s.builders.get? name = some b) (declared : s.functions.get? function = some f)
    (arguments : List Channel) : ∀ c ∈ (b.withCall ⟨f, arguments⟩).calls, c.function ∈ fs := by
  intro c hc
  rcases List.mem_append.mp hc with old | new
  · exact h.called name b found c old
  · rw [List.mem_singleton.mp new]
    exact h.named function f declared

theorem identified (h : s.Copies fs) {f g : Function} (hf : f ∈ fs) (hg : g ∈ fs)
    (same : f.id = g.id) : f = g :=
  List.inj_on_of_nodup_map h.distinct hf hg same

variable [Device δ ℓ]

theorem transition (h : s.Copies (made ms)) {step : Step}
    {out : Except StepError Answer × Scene δ ℓ} (t : Transition s step out) :
    out.2.Copies (made (ms ++ [⟨s, step, out.1⟩])) := by
  cases t with
  | refused e | addSpriteRefused e =>
      exact h.frame (Moment.function?_of_error ..) rfl h.named h.called
  | asked query r => exact h.frame (Moment.function?_of_isQuery query ..) rfl h.named h.called
  | newFunction typed =>
      rw [Script.made_append]
      exact h.newFunction rfl _
  | copyFunction found => exact h.frame rfl rfl (h.named.insert (h.named _ _ found)) h.called
  | newBuilder as =>
      exact h.frame rfl rfl h.named (h.called.insert fun _ none => (List.not_mem_nil none).elim)
  | addAttribute _ found | addOperation _ found | addIntermediate _ found =>
      exact h.frame rfl rfl h.named (h.called.insert (h.called _ _ found :))
  | call _ declared found called =>
      obtain ⟨rfl, -⟩ := ProcedureBuilder.eq_of_call called
      exact h.frame rfl rfl h.named (h.called.insert (h.withCall found declared _))
  | setOutput _ found bound =>
      obtain ⟨rfl, -⟩ := ProcedureBuilder.eq_of_setOutput bound
      exact h.frame rfl rfl h.named (h.called.insert (h.called _ _ found :))
  | finish found ran => exact h.frame rfl rfl h.named (h.called.erase _)
  | _ => exact h.frame rfl rfl h.named h.called

theorem run {device : δ} {config : RendererConfig} {window : Size} {s₀ : Scene δ ℓ}
    (created : Scene.create device config window = .ok s₀) (steps : List Step) :
    (Script.run steps s₀).2.Copies (made (Script.history s₀ steps)) := by
  obtain ⟨templates, rfl⟩ := Scene.eq_of_create created
  exact Script.history_induction (I := fun ms s => s.Copies (made ms))
    (fun _ _ _ _ t h => h.transition t) steps
    ⟨List.nodup_nil, fun _ none => (List.not_mem_nil none).elim, .empty, .empty⟩

end Copies

/-- Of the channels that were made, a builder owns those that it made itself. -/
theorem Traced.minted_iff_owns {start : Nat} {g : Lineage} {s : Scene δ ℓ} (h : s.Traced start g)
    {b : ProcedureBuilder} {n : Nat} (session : b.session = start + n) {c : Channel}
    (minted : ∃ k, (k, c) ∈ g.minted) : (n, c) ∈ g.minted ↔ b.owns c = true := by
  rw [ProcedureBuilder.owns_iff, session]
  constructor
  · intro own
    exact (h.minted n c own).2
  · intro same
    obtain ⟨k, other⟩ := minted
    obtain rfl : k = n := by
      have := (h.minted k c other).2
      omega
    exact other

end Scene

/-! ## Runs -/

section

variable {δ ℓ : Type} [Device δ ℓ] {device : δ} {config : RendererConfig} {window : Size}
  {s₀ : Scene δ ℓ}

/-- Whatever a script did, a builder accepts the calls that type-check with the channels that it has
made, and refuses every other call for its first fault. A call that it accepts is added to its
calls, and its function is declared with the first call of it or of a copy of it. So the functions
that it declares are those that it has called, each once, and it knows them by their identities.
Functions that were made apart have different identities, and a copy has the one of its original. -/
theorem calls_typecheck (created : Scene.create device config window = .ok s₀)
    (steps : List Step) {name : String} {b : ProcedureBuilder}
    (found : (Script.run steps s₀).2.builders.get? name = some b) :
    let ms := Script.history s₀ steps
    let g := Script.lineage ms
    let es := Script.record name ms
    ∃ n, g.builders.get? name = some n ∧
      (∀ f arguments, (∀ c ∈ arguments, ∃ k, (k, c) ∈ g.minted) →
        let own (c : Channel) : Prop := (n, c) ∈ g.minted
        ((∃ b', b.call f arguments = .ok b') ↔ ProcedureBuilder.TypeChecks own f arguments) ∧
          (∀ e, b.call f arguments = .error e ↔ ProcedureBuilder.Fault own f arguments e) ∧
          ∀ b', b.call f arguments = .ok b' → b.Adds es ⟨f, arguments⟩ b') ∧
      b.DeclaresOnce es ∧ (Script.run steps s₀).2.Copies (Script.made ms) := by
  intro ms g es
  have traced : (Script.run steps s₀).2.Traced s₀.nextSession g := .run created steps
  have copies : (Script.run steps s₀).2.Copies (Script.made ms) := .run created steps
  obtain ⟨records, -, -⟩ := builder_of_run created found
  obtain ⟨n, number, session, -⟩ := traced.builders name b found
  refine ⟨n, number, fun f arguments minted => ?_, records.declaresOnce fun c hc d hd =>
    copies.identified (copies.called name b found c hc) (copies.called name b found d hd), copies⟩
  have owners : ∀ c ∈ arguments, (n, c) ∈ g.minted ↔ b.owns c = true := fun c hc =>
    traced.minted_iff_owns session (minted c hc)
  refine ⟨ProcedureBuilder.exists_call_iff owners,
    fun e => ProcedureBuilder.call_eq_error_iff owners, fun b' called => ?_⟩
  obtain ⟨rfl, -⟩ := ProcedureBuilder.eq_of_call called
  exact records.adds_withCall _

end

/-- Two builders with channels of the same types. A function is called, after a call of its copy was
refused, and a function of equal content is made. -/
def offeredCalls : List Step :=
  [.newBuilder "b", .newBuilder "other", .addAttribute "b" ⟨.float, 2⟩ "place",
    .addAttribute "other" ⟨.float, 2⟩ "otherPlace", .addOperation "b" ⟨.uint, 1⟩ "layer",
    .addOperation "other" ⟨.uint, 1⟩ "otherLayer",
    .newFunction "move" [⟨.float, 2⟩, ⟨.float, 2⟩] "void move(vec2 a, vec2 b);" "f",
    .copyFunction "f" "g",
    .newFunction "move" [⟨.float, 2⟩, ⟨.float, 2⟩] "void move(vec2 a, vec2 b);" "twin",
    .call "b" "g" ["place", "otherPlace"], .call "b" "f" ["place", "place"]]

/-- The function that this script makes with an identity. -/
def offeredFunction (id : Nat) : Function :=
  ⟨id, "move", [.vec2, .vec2], "void move(vec2 a, vec2 b);"⟩

/-- The channels that this script makes of the builder of a session. -/
def offeredPlace (session : Nat) : Channel := ⟨session, 1, .perInstance, .vec2⟩

def offeredLayer (session : Nat) : Channel := ⟨session, 2, .perDraw, .uint⟩

def offeredChannels : List (Nat × Channel) :=
  [(1, offeredLayer 2), (0, offeredLayer 1), (1, offeredPlace 2), (0, offeredPlace 1)]

theorem isSome_offeredCalls :
    ((Script.run offeredCalls bareScene).2.builders.get? "b").isSome := by
  decide +kernel

/-- The copy is not declared again, the function of equal content is. Of two faults the first one is
reported, and a foreign channel is foreign whatever its type is. -/
theorem calls_typecheck_offeredCalls :
    ∃ b : ProcedureBuilder, (Script.run offeredCalls bareScene).2.builders.get? "b" = some b ∧
      b.functions = [offeredFunction 1] ∧
      (∃ b', b.call (offeredFunction 1) [offeredPlace 1, offeredPlace 1] = .ok b' ∧
        b'.functions = b.functions) ∧
      (∃ b', b.call (offeredFunction 2) [offeredPlace 1, offeredPlace 1] = .ok b' ∧
        b'.functions = b.functions ++ [offeredFunction 2]) ∧
      b.call (offeredFunction 1) [offeredLayer 1, offeredPlace 2] =
        .error (.typeMismatch "move" 0 .vec2 .uint) ∧
      b.call (offeredFunction 1) [offeredPlace 1, offeredLayer 2] = .error .foreignChannel ∧
      b.call (offeredFunction 1) [offeredPlace 2] = .error (.arityMismatch "move" 2 1) := by
  have created : Scene.create ({} : Headless) .bare ⟨4, 4⟩ = .ok bareScene :=
    Scene.create_of_parse ShaderTemplates.parse_bare _ _
  have found := (Option.some_get isSome_offeredCalls).symm
  obtain ⟨n, number, checks, -, -⟩ := calls_typecheck created offeredCalls found
  obtain rfl : n = 0 := by
    have first : (Script.lineage (Script.history bareScene offeredCalls)).builders.get? "b" =
        some 0 := by decide +kernel
    exact Option.some.inj (number.symm.trans first)
  have lineage : (Script.lineage (Script.history bareScene offeredCalls)).minted =
      offeredChannels := by decide +kernel
  rw [lineage] at checks
  have answers (f : Function) (arguments : List Channel)
      (minted : arguments ⊆ offeredChannels.map (·.2)) :=
    checks f arguments fun c hc => by
      obtain ⟨⟨k, _⟩, known, rfl⟩ := List.mem_map.mp (minted hc)
      exact ⟨k, known⟩
  have right (id : Nat) : ProcedureBuilder.TypeChecks (fun c => (0, c) ∈ offeredChannels)
      (offeredFunction id) [offeredPlace 1, offeredPlace 1] := by
    have own : (0, offeredPlace 1) ∈ offeredChannels := by decide
    refine ⟨rfl, ?_⟩
    rintro (_ | _ | i) type c wanted passed <;> cases wanted <;> cases passed
    all_goals exact ⟨own, rfl⟩
  refine ⟨_, found, by decide +kernel, ?_, ?_, ?_, ?_, ?_⟩
  · obtain ⟨accepts, -, adds⟩ := answers (offeredFunction 1) [offeredPlace 1, offeredPlace 1]
      (by decide)
    obtain ⟨b', called⟩ := accepts.mpr (right 1)
    exact ⟨b', called, (adds b' called).again (by decide +kernel)⟩
  · obtain ⟨accepts, -, adds⟩ := answers (offeredFunction 2) [offeredPlace 1, offeredPlace 1]
      (by decide)
    obtain ⟨b', called⟩ := accepts.mpr (right 2)
    exact ⟨b', called, (adds b' called).first (by decide +kernel)⟩
  · obtain ⟨-, refuses, -⟩ := answers (offeredFunction 1) [offeredLayer 1, offeredPlace 2]
      (by decide)
    refine (refuses _).mpr (.mistyped (i := 0) (c := offeredLayer 1) rfl (fun j hj => ?_) rfl rfl
      (by decide) (by decide))
    exact absurd hj (Nat.not_lt_zero j)
  · obtain ⟨-, refuses, -⟩ := answers (offeredFunction 1) [offeredPlace 1, offeredLayer 2]
      (by decide)
    refine (refuses _).mpr (.foreign (i := 1) rfl (fun j hj => ?_) rfl (by decide))
    obtain rfl : j = 0 := Nat.lt_one_iff.mp hj
    exact (right 1).fits 0
  · obtain ⟨-, refuses, -⟩ := answers (offeredFunction 1) [offeredPlace 2] (by decide)
    exact (refuses _).mpr (.arity (by decide))

end SpriteRenderer
