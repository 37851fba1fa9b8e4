import Mathlib.Data.List.Perm.Basic
import SpriteRenderer.Device.Headless
import SpriteRenderer.Proofs.Procedure.Declaring
import SpriteRenderer.Proofs.Procedure.Program
import SpriteRenderer.Proofs.Script.Transition

/-! # Scoping

A channel that carries the session of a builder was made by this builder, and is in exactly one
of its lists. So whatever was called and bound, and whatever was refused, the program that a
builder composes is well typed. -/

namespace SpriteRenderer

/-! ## Builders -/

namespace ProcedureBuilder

theorem declared_addAttribute (b : ProcedureBuilder) (type : ShaderType) :
    (b.addAttribute type).2.declared.Perm ((b.addAttribute type).1 :: b.declared) := by
  simp [declared, addAttribute]

theorem declared_addOperation (b : ProcedureBuilder) (type : ShaderType) :
    (b.addOperation type).2.declared.Perm ((b.addOperation type).1 :: b.declared) := by
  have middle : (b.addOperation type).2.declared = (b.attributes ++ b.uniforms) ++
      (b.addOperation type).1 :: b.locals.map (·.1) := by
    simp [declared, addOperation]
  rw [middle]
  exact List.perm_middle

theorem declared_addIntermediate (b : ProcedureBuilder) (type : ShaderType)
    (expression : Option String) :
    (b.addIntermediate type expression).2.declared.Perm
      ((b.addIntermediate type expression).1 :: b.declared) := by
  have last : (b.addIntermediate type expression).2.declared =
      b.declared ++ [(b.addIntermediate type expression).1] := by
    simp [declared, addIntermediate]
  rw [last]
  exact List.perm_append_singleton _ _

/-- The builder uses the channel in a call or for an output. -/
def Uses (b : ProcedureBuilder) (c : Channel) : Prop :=
  (∃ call ∈ b.calls, c ∈ call.arguments) ∨ ∃ o, b.outputs.get? o = some c

/-- A builder knows every channel that it uses, and tells its channels apart by their ids. -/
structure Coherent (b : ProcedureBuilder) : Prop where
  ids : (b.declared.map (·.id)).Nodup
  fresh : ∀ c ∈ b.declared, c.id < b.nextChannel
  used : ∀ c, b.Uses c → c ∈ b.declared
  typed : ∀ call ∈ b.calls, call.function.parameters = call.arguments.map (·.type)
  tallied : b.Tallied
  required : b.outputs.All fun o c => c.type = o.requiredType

namespace Coherent

variable {b b' : ProcedureBuilder}

/-- Making a channel puts it into one of the lists. -/
theorem mint (h : b.Coherent) {c : Channel} (made : b'.declared.Perm (c :: b.declared))
    (new : c.id = b.nextChannel) (next : b'.nextChannel = b.nextChannel + 1)
    (calls : b'.calls = b.calls) (tallied : b'.Tallied) (outputs : b'.outputs = b.outputs) :
    b'.Coherent := by
  have uses : ∀ d, b'.Uses d ↔ b.Uses d := by simp [Uses, calls, outputs]
  refine ⟨?_, fun d hd => ?_, fun d hd => ?_, ?_, tallied, ?_⟩
  · rw [(made.map _).nodup_iff, List.map_cons, List.nodup_cons]
    refine ⟨fun old => ?_, h.ids⟩
    obtain ⟨d, hd, same⟩ := List.mem_map.mp old
    have := h.fresh d hd
    omega
  · rw [next]
    rcases List.mem_cons.mp (made.mem_iff.mp hd) with rfl | hd
    · omega
    · have := h.fresh d hd
      omega
  · exact made.mem_iff.mpr (List.mem_cons_of_mem c (h.used d ((uses d).mp hd)))
  · rw [calls]
    exact h.typed
  · rw [outputs]
    exact h.required

theorem new (c : Context) (session : Nat) : (c.builder session).Coherent where
  ids := List.nodup_nil
  fresh d hd := by cases hd
  used d hd := by
    rcases hd with ⟨call, hcall, -⟩ | ⟨o, ho⟩
    · cases hcall
    · cases ho
  typed call hcall := by cases hcall
  tallied := .new c session
  required := .empty

/-- A call that is accepted has own channels of the right types for arguments. -/
theorem call (h : b.Coherent) {f : Function} {arguments : List Channel}
    (called : b.call f arguments = .ok b')
    (own : ∀ c ∈ arguments, c.session = b.session → c ∈ b.declared) : b'.Coherent := by
  obtain ⟨rfl, owned, typed⟩ := eq_of_call called
  refine ⟨h.ids, h.fresh, fun c hc => ?_, fun call hcall => ?_, h.tallied.withCall _, h.required⟩
  · rcases hc with ⟨call, hcall, hc⟩ | bound
    · rcases List.mem_append.mp hcall with old | new
      · exact h.used c (.inl ⟨call, old, hc⟩)
      · rw [List.mem_singleton.mp new] at hc
        exact own c hc (owned c hc)
    · exact h.used c (.inr bound)
  · rcases List.mem_append.mp hcall with old | new
    · exact h.typed call old
    · rw [List.mem_singleton.mp new]
      exact typed

theorem setOutput (h : b.Coherent) {o : Output} {c : Channel} (bound : b.setOutput o c = .ok b')
    (own : c.session = b.session → c ∈ b.declared) : b'.Coherent := by
  obtain ⟨rfl, owned, typed⟩ := eq_of_setOutput bound
  refine ⟨h.ids, h.fresh, fun d hd => ?_, h.typed, h.tallied.withOutputs _,
    h.required.insert typed⟩
  rcases hd with called | ⟨o', ho⟩
  · exact h.used d (.inl called)
  · rw [Table.get?_insert] at ho
    by_cases same : o' = o
    · rw [if_pos same, Option.some.injEq] at ho
      rw [← ho]
      exact own owned
    · rw [if_neg same] at ho
      exact h.used d (.inr ⟨o', ho⟩)

end Coherent

end ProcedureBuilder

/-! ## Scenes -/

namespace Scene

variable {δ ℓ : Type}

/-- The function is in the scene, under a name or in a call. -/
def Knows (s : Scene δ ℓ) (f : Function) : Prop :=
  (∃ name, s.functions.get? name = some f) ∨
    ∃ name b, s.builders.get? name = some b ∧ ∃ call ∈ b.calls, call.function = f

/-- Sessions tell builders apart, and channels carry the session of their builder. Identities
tell functions apart. -/
structure Scoped (s : Scene δ ℓ) : Prop where
  begun : s.builders.All fun _ b => b.session < s.nextSession
  apart : s.builders.Apart (·.session)
  coherent : s.builders.All fun _ b => b.Coherent
  minted : s.channels.All fun _ c => c.session < s.nextSession
  own : s.channels.All fun _ c => s.builders.All fun _ b =>
    c.session = b.session → c ∈ b.declared
  numbered : ∀ f, s.Knows f → f.id < s.nextFunction
  identified : ∀ f g, s.Knows f → s.Knows g → f.id = g.id → f = g

namespace Scoped

variable {s : Scene δ ℓ}

/-- A new builder has a session that no channel has. -/
theorem newBuilder (h : s.Scoped) (name : String) : Scoped { s with
    nextSession := s.nextSession + 1
    builders := s.builders.insert name (s.context.builder s.nextSession) } := by
  have knows : ∀ f, Knows { s with
      nextSession := s.nextSession + 1
      builders := s.builders.insert name (s.context.builder s.nextSession) } f → s.Knows f := by
    rintro f (known | ⟨n, b, found, call, hcall, rfl⟩)
    · exact .inl known
    · rw [Table.get?_insert] at found
      by_cases same : n = name
      · rw [if_pos same, Option.some.injEq] at found
        rw [← found] at hcall
        cases hcall
      · rw [if_neg same] at found
        exact .inr ⟨n, b, found, call, hcall, rfl⟩
  refine ⟨?_, ?_, h.coherent.insert (.new _ _), ?_, ?_, fun f hf => h.numbered f (knows f hf),
    fun f g hf hg => h.identified f g (knows f hf) (knows g hg)⟩
  · exact (h.begun.mono fun _ _ _ => Nat.lt_succ_of_lt).insert (Nat.lt_succ_self _)
  · refine h.apart.insert fun n b found same => ?_
    have : b.session < s.nextSession := h.begun n b found
    have new : b.session = s.nextSession := same
    omega
  · exact h.minted.mono fun _ _ _ => Nat.lt_succ_of_lt
  · refine h.own.mono fun n c found own => own.insert fun new => ?_
    have old : c.session < s.nextSession := h.minted n c found
    have : c.session = s.nextSession := new
    omega

/-- A builder may go on, if it keeps its session and its channels. -/
theorem update (h : s.Scoped) {name : String} {b b' : ProcedureBuilder}
    (found : s.builders.get? name = some b) (session : b'.session = b.session)
    (declared : b.declared ⊆ b'.declared) (coherent : b'.Coherent)
    (known : ∀ call ∈ b'.calls, s.Knows call.function) :
    Scoped { s with builders := s.builders.insert name b' } := by
  have knows : ∀ f, Knows { s with builders := s.builders.insert name b' } f → s.Knows f := by
    rintro f (known' | ⟨n, b'', hn, call, hcall, rfl⟩)
    · exact .inl known'
    · rw [Table.get?_insert] at hn
      by_cases same : n = name
      · rw [if_pos same, Option.some.injEq] at hn
        rw [← hn] at hcall
        exact known call hcall
      · rw [if_neg same] at hn
        exact .inr ⟨n, b'', hn, call, hcall, rfl⟩
  refine ⟨h.begun.insert ?_, h.apart.update found session, h.coherent.insert coherent, h.minted,
    h.own.mono fun n c _ own => own.insert ?_, fun f hf => h.numbered f (knows f hf),
    fun f g hf hg => h.identified f g (knows f hf) (knows g hg)⟩
  · rw [session]
    exact h.begun name b found
  · intro same
    rw [session] at same
    exact declared (own name b found same)

/-- A new channel is in the lists of its builder and of no other one. -/
theorem mint (h : s.Scoped) {name as : String} {b b' : ProcedureBuilder} {c : Channel}
    (found : s.builders.get? name = some b) (session : b'.session = b.session)
    (made : b'.declared.Perm (c :: b.declared)) (owned : c.session = b.session)
    (new : c.id = b.nextChannel) (next : b'.nextChannel = b.nextChannel + 1)
    (calls : b'.calls = b.calls) (tallied : b.Tallied → b'.Tallied)
    (outputs : b'.outputs = b.outputs) :
    Scoped { s with
      builders := s.builders.insert name b'
      channels := s.channels.insert as c } := by
  have coherent := (h.coherent name b found).mint made new next calls
    (tallied (h.coherent name b found).tallied) outputs
  have known : ∀ call ∈ b'.calls, s.Knows call.function := by
    rw [calls]
    exact fun call hcall => .inr ⟨name, b, found, call, hcall, rfl⟩
  have grown := h.update found session (fun d hd => made.mem_iff.mpr (List.mem_cons_of_mem c hd))
    coherent known
  refine ⟨grown.begun, grown.apart, grown.coherent, grown.minted.insert ?_, grown.own.insert ?_,
    grown.numbered, grown.identified⟩
  · rw [owned]
    exact h.begun name b found
  · intro n d hd same
    rw [Table.get?_insert] at hd
    by_cases here : n = name
    · rw [if_pos here, Option.some.injEq] at hd
      rw [← hd]
      exact made.mem_iff.mpr List.mem_cons_self
    · rw [if_neg here] at hd
      exact absurd (h.apart hd found (same.symm.trans owned)) here

theorem call (h : s.Scoped) {name function : String} {names : List String} {f : Function}
    {arguments : List Channel} {b b' : ProcedureBuilder}
    (passed : List.Forall₂ (fun n c => s.channels.get? n = some c) names arguments)
    (declared : s.functions.get? function = some f) (found : s.builders.get? name = some b)
    (called : b.call f arguments = .ok b') :
    Scoped { s with builders := s.builders.insert name b' } := by
  have coherent := (h.coherent name b found).call called fun c hc same => by
    obtain ⟨n, hn⟩ := SceneAction.exists_name_of_mem passed hc
    exact h.own n c hn name b found same
  obtain ⟨rfl, -, -⟩ := ProcedureBuilder.eq_of_call called
  refine h.update found rfl (fun _ => id) coherent fun call hcall => ?_
  rcases List.mem_append.mp hcall with old | new
  · exact .inr ⟨name, b, found, call, old, rfl⟩
  · rw [List.mem_singleton.mp new]
    exact .inl ⟨function, declared⟩

theorem setOutput (h : s.Scoped) {name channel : String} {o : Output} {c : Channel}
    {b b' : ProcedureBuilder} (passed : s.channels.get? channel = some c)
    (found : s.builders.get? name = some b) (bound : b.setOutput o c = .ok b') :
    Scoped { s with builders := s.builders.insert name b' } := by
  have coherent := (h.coherent name b found).setOutput bound (h.own channel c passed name b found)
  obtain ⟨rfl, -, -⟩ := ProcedureBuilder.eq_of_setOutput bound
  exact h.update found rfl (fun _ => id) coherent fun call hcall =>
    .inr ⟨name, b, found, call, hcall, rfl⟩

/-- A new function has an identity that no other one has. -/
theorem newFunction (h : s.Scoped) (name source as : String) (parameters : List ShaderType) :
    Scoped { s with
      nextFunction := s.nextFunction + 1
      functions := s.functions.insert as ⟨s.nextFunction, name, parameters, source⟩ } := by
  have knows : ∀ f, Knows { s with
      nextFunction := s.nextFunction + 1
      functions := s.functions.insert as ⟨s.nextFunction, name, parameters, source⟩ } f →
      f = ⟨s.nextFunction, name, parameters, source⟩ ∨ s.Knows f := by
    rintro f (⟨n, hn⟩ | called)
    · rw [Table.get?_insert] at hn
      by_cases same : n = as
      · rw [if_pos same, Option.some.injEq] at hn
        exact .inl hn.symm
      · rw [if_neg same] at hn
        exact .inr (.inl ⟨n, hn⟩)
    · exact .inr (.inr called)
  refine ⟨h.begun, h.apart, h.coherent, h.minted, h.own, fun f hf => ?_, fun f g hf hg same => ?_⟩
  · rcases knows f hf with rfl | old
    · exact Nat.lt_succ_self _
    · exact Nat.lt_succ_of_lt (h.numbered f old)
  · rcases knows f hf with rfl | hf <;> rcases knows g hg with rfl | hg
    · rfl
    · exact absurd (h.numbered g hg) (by rw [← same]; exact Nat.lt_irrefl _)
    · exact absurd (h.numbered f hf) (by rw [same]; exact Nat.lt_irrefl _)
    · exact h.identified f g hf hg same

theorem copyFunction (h : s.Scoped) {function as : String} {f : Function}
    (found : s.functions.get? function = some f) :
    Scoped { s with functions := s.functions.insert as f } := by
  have knows : ∀ g, Knows { s with functions := s.functions.insert as f } g → s.Knows g := by
    rintro g (⟨n, hn⟩ | called)
    · rw [Table.get?_insert] at hn
      by_cases same : n = as
      · rw [if_pos same, Option.some.injEq] at hn
        exact .inl ⟨function, hn ▸ found⟩
      · rw [if_neg same] at hn
        exact .inl ⟨n, hn⟩
    · exact .inr called
  exact ⟨h.begun, h.apart, h.coherent, h.minted, h.own, fun g hg => h.numbered g (knows g hg),
    fun g g' hg hg' => h.identified g g' (knows g hg) (knows g' hg')⟩

/-- A builder that is given up is no longer known, nor are its calls. -/
theorem erase (h : s.Scoped) (name : String) :
    Scoped { s with builders := s.builders.erase name } := by
  have knows : ∀ f, Knows { s with builders := s.builders.erase name } f → s.Knows f := by
    rintro f (known | ⟨n, b, hn, call, hcall, rfl⟩)
    · exact .inl known
    · rw [Table.get?_erase] at hn
      by_cases same : n = name
      · simp [same] at hn
      · rw [if_neg same] at hn
        exact .inr ⟨n, b, hn, call, hcall, rfl⟩
  exact ⟨h.begun.erase name, h.apart.erase name, h.coherent.erase name, h.minted,
    h.own.mono fun _ _ _ own => own.erase name, fun f hf => h.numbered f (knows f hf),
    fun f g hf hg => h.identified f g (knows f hf) (knows g hg)⟩

variable [Device δ ℓ]

theorem of_create {device : δ} {config : RendererConfig} {window : Size}
    (created : Scene.create device config window = .ok s) : s.Scoped := by
  obtain ⟨templates, rfl⟩ := Scene.eq_of_create created
  have knows : ∀ f, ¬ (Scene.start device window config templates : Scene δ ℓ).Knows f := by
    rintro f (⟨name, found⟩ | ⟨name, b, found, -⟩)
    · cases found
    · cases found
  exact ⟨.empty, .empty, .empty, .empty, .empty, fun f hf => absurd hf (knows f),
    fun f g hf => absurd hf (knows f)⟩

theorem transition (h : s.Scoped) {step : Step} {out : Except StepError Answer × Scene δ ℓ}
    (t : Script.Transition s step out) : out.2.Scoped := by
  cases t with
  | newBuilder as => exact h.newBuilder as
  | addAttribute _ found =>
      exact h.mint found rfl (ProcedureBuilder.declared_addAttribute _ _) rfl rfl rfl rfl
        (·.addAttribute _) rfl
  | addOperation _ found =>
      exact h.mint found rfl (ProcedureBuilder.declared_addOperation _ _) rfl rfl rfl rfl
        (·.addOperation _) rfl
  | addIntermediate _ found =>
      exact h.mint found rfl (ProcedureBuilder.declared_addIntermediate _ _ _) rfl rfl rfl rfl
        (·.addIntermediate _ _) rfl
  | newFunction _ => exact h.newFunction _ _ _ _
  | copyFunction found => exact h.copyFunction found
  | call passed declared found called => exact h.call passed declared found called
  | setOutput passed found bound => exact h.setOutput passed found bound
  | finish found ran =>
      obtain ⟨begun, apart, coherent, minted, own, numbered, identified⟩ := h.erase _
      exact ⟨begun, apart, coherent, minted, own, numbered, identified⟩
  | _ =>
      exact ⟨h.begun, h.apart, h.coherent, h.minted, h.own, h.numbered, h.identified⟩

end Scoped

end Scene

/-! ## Composed programs -/

namespace ProcedureBuilder.Coherent

variable {b : ProcedureBuilder}

theorem names (h : b.Coherent) : (b.program.declarations.map (·.name)).Nodup := by
  rw [b.map_declarations fun name _ => name, List.Nodup, List.pairwise_map]
  have ids := h.ids
  rw [List.Nodup, List.pairwise_map] at ids
  exact ids.imp fun other same => other (Channel.id_eq_of_name_eq same)

theorem declares (h : b.Coherent) {c : Channel} (hc : b.Uses c) :
    b.program.Declares c.name c.type :=
  declares_of_mem h.names (h.used c hc)

/-- There are no more attributes than words for their ids. -/
theorem locations (h : b.Coherent) (words : ∀ c ∈ b.attributes, c.id < UInt32.size) :
    (b.program.attributes.filterMap (·.location?)).Nodup := by
  apply nodup_locations
  have ids : (b.attributes.map (·.id)).Nodup := by
    have all := h.ids
    rw [declared, List.append_assoc, List.map_append] at all
    exact all.of_append_left
  have subset : b.attributes.map (·.id) ⊆ List.range UInt32.size := by
    intro i hi
    obtain ⟨c, hc, rfl⟩ := List.mem_map.mp hi
    exact List.mem_range.mpr (words c hc)
  have shorter := (List.subperm_of_subset ids subset).length_le
  rwa [List.length_map, List.length_range] at shorter

end ProcedureBuilder.Coherent

end SpriteRenderer
