import SpriteRenderer.Proofs.Procedure.Numbering
import SpriteRenderer.Proofs.Procedure.Record
import SpriteRenderer.Proofs.Procedure.Scoping

/-! # Procedures and their sources

What a procedure tells of a channel is what its vertex source declares, and a procedure that is
linked later from the same builder tells the same. -/

namespace SpriteRenderer

/-! ## Records that go on -/

namespace Entry

/-- The channel that was made. -/
def channel? : Entry → Option Channel
  | .attribute c | .uniform c | .intermediate c _ => some c
  | _ => none

theorem attribute?_eq_some_iff {e : Entry} {c : Channel} :
    e.attribute? = some c ↔ e = .attribute c := by
  cases e <;> simp [attribute?]

theorem uniform?_eq_some_iff {e : Entry} {c : Channel} : e.uniform? = some c ↔ e = .uniform c := by
  cases e <;> simp [uniform?]

theorem mem_filterMap_uniform? {es : List Entry} {c : Channel} :
    c ∈ es.filterMap uniform? ↔ .uniform c ∈ es := by
  simp [List.mem_filterMap, uniform?_eq_some_iff]

end Entry

namespace Script

variable {δ ℓ : Type}

variable [Device δ ℓ]

end Script

/-! ## Channels of builders -/

namespace ProcedureBuilder

/-- Every channel of a builder carries its session. -/
def Signed (b : ProcedureBuilder) : Prop := ∀ c ∈ b.declared, c.session = b.session

theorem Signed.mint {b b' : ProcedureBuilder} {c : Channel} (h : b.Signed)
    (made : b'.declared.Perm (c :: b.declared)) (session : b'.session = b.session)
    (owned : c.session = b.session) : b'.Signed := by
  intro d hd
  rw [session]
  rcases List.mem_cons.mp (made.mem_iff.mp hd) with rfl | hd
  · exact owned
  · exact h d hd

namespace Records

variable {context : Context} {es : List Entry} {b : ProcedureBuilder}

theorem mem_declared_iff (h : b.Records context es) {c : Channel} :
    c ∈ b.declared ↔ ∃ e ∈ es, e.channel? = some c := by
  rw [declared, h.attributes, h.uniforms, h.locals]
  simp only [List.mem_append, List.mem_map, List.mem_filterMap]
  constructor
  · rintro ((⟨e, he, made⟩ | ⟨e, he, made⟩) | ⟨⟨d, expression⟩, ⟨e, he, made⟩, rfl⟩)
    · exact ⟨e, he, by rw [Entry.attribute?_eq_some_iff.mp made]; rfl⟩
    · exact ⟨e, he, by rw [Entry.uniform?_eq_some_iff.mp made]; rfl⟩
    · cases e <;> cases made
      exact ⟨_, he, rfl⟩
  · rintro ⟨e, he, made⟩
    rcases e with d | d | ⟨d, expression⟩ | _ | ⟨_, _⟩
    · exact .inl (.inl ⟨_, he, made⟩)
    · exact .inl (.inr ⟨_, he, made⟩)
    · cases made
      exact .inr ⟨_, ⟨_, he, rfl⟩, rfl⟩
    · cases made
    · cases made

end Records

theorem mem_attributeBindings_iff {b : ProcedureBuilder} {a : AttributeBinding} :
    a ∈ b.attributeBindings ↔
      ∃ i, b.attributes[i]? = some a.channel ∧ a.location = b.layoutStart + .ofNat i := by
  rw [attributeBindings, List.mem_map]
  constructor
  · rintro ⟨⟨c, i⟩, listed, rfl⟩
    exact ⟨i, List.mem_zipIdx_iff_getElem?.mp listed, rfl⟩
  · rintro ⟨i, listed, location⟩
    refine ⟨(a.channel, i), List.mem_zipIdx_iff_getElem?.mpr listed, ?_⟩
    simp only [← location]

namespace Coherent

variable {b : ProcedureBuilder}

/-- No attribute channel has the id of an operation channel. -/
theorem id_ne_id (h : b.Coherent) {c d : Channel} (hc : c ∈ b.attributes) (hd : d ∈ b.uniforms) :
    c.id ≠ d.id := by
  have ids := h.ids
  rw [declared, List.map_append, List.map_append] at ids
  exact (List.nodup_append.mp ids.of_append_left).2.2 _ (List.mem_map_of_mem hc) _
    (List.mem_map_of_mem hd)

end Coherent

end ProcedureBuilder

namespace Scene

variable {δ ℓ : Type} [Device δ ℓ] {s : Scene δ ℓ}

theorem signed_transition (h : s.builders.All fun _ b => b.Signed) {step : Step}
    {out : Except StepError Answer × Scene δ ℓ} (t : Script.Transition s step out) :
    out.2.builders.All fun _ b => b.Signed := by
  cases t with
  | newBuilder as => exact h.insert fun c hc => by cases hc
  | addAttribute _ found =>
      exact h.insert ((h _ _ found).mint (ProcedureBuilder.declared_addAttribute _ _) rfl rfl)
  | addOperation _ found =>
      exact h.insert ((h _ _ found).mint (ProcedureBuilder.declared_addOperation _ _) rfl rfl)
  | addIntermediate _ found =>
      exact h.insert ((h _ _ found).mint (ProcedureBuilder.declared_addIntermediate _ _ _) rfl rfl)
  | call _ _ found called =>
      obtain ⟨rfl, -⟩ := ProcedureBuilder.eq_of_call called
      exact h.insert (h _ _ found :)
  | setOutput _ found bound =>
      obtain ⟨rfl, -⟩ := ProcedureBuilder.eq_of_setOutput bound
      exact h.insert (h _ _ found :)
  | finish found ran => exact h.erase _
  | _ => exact h

end Scene

/-! ## What a procedure tells -/

namespace Procedure

variable {ℓ : Type}

/-- The procedure has the session, the channels and the source of a composed shader. -/
structure Links (shader : ComposedShader) (p : Procedure ℓ) : Prop where
  session : p.session = shader.session
  attributes : p.attributes = shader.attributes
  uniforms : p.uniforms.map (fun u => (u.channel, u.type)) =
    shader.uniforms.map fun c => (c.id, c.type)
  vertexSource : p.vertexSource = shader.vertexSource

section

variable {δ : Type} [Device δ ℓ]

theorem locateAll_yields_channels (program : Handle) (cs : List Channel) :
    (locateAll program cs : Action δ (List (UniformSlot ℓ))).Yields fun us =>
      us.map (fun u => (u.channel, u.type)) = cs.map fun c => (c.id, c.type) := by
  induction cs with
  | nil => exact .pure rfl
  | cons c cs ih => exact .bind (.any _) fun _ _ => .bind ih fun us rest => .pure (by simp [rest])

theorem link_yields_links (shader : ComposedShader) :
    (link shader : Action δ (Procedure ℓ)).Yields (Links shader) :=
  link_yields shader (fun _ => .any _) (locateAll_yields_channels · _)
    fun _ _ _ _ channels => ⟨rfl, rfl, channels, rfl⟩

end

namespace Links

variable {shader : ComposedShader} {p : Procedure ℓ}

theorem attribute?_eq (h : p.Links shader) (c : Channel) :
    p.attribute? c = if c.session = shader.session then
      (shader.attributes.find? (·.channel.id = c.id)).map fun a => ⟨a.location, a.channel.type⟩
    else none := by
  simp [attribute?, owns, h.session, h.attributes]

theorem uniformType?_eq (h : p.Links shader) (c : Channel) :
    p.uniformType? c = if c.session = shader.session then
      (shader.uniforms.find? (·.id = c.id)).map (·.type) else none := by
  have found : (p.uniforms.find? (·.channel = c.id)).map (·.type) =
      (shader.uniforms.find? (·.id = c.id)).map (·.type) := by
    have pairs := congrArg (fun l => (l.find? (·.1 = c.id)).map (·.2)) h.uniforms
    simpa [List.find?_map, Function.comp_def] using pairs
  simp [uniformType?, owns, h.session, found]

end Links

theorem Links.apart {shader : ComposedShader} {p : Procedure ℓ} (h : p.Links shader)
    {b : ProcedureBuilder} (composed : b.compose = .ok shader) (coherent : b.Coherent)
    (c : Channel) : p.attribute? c = none ∨ p.uniformType? c = none := by
  obtain ⟨-, rfl⟩ := ProcedureBuilder.eq_of_compose composed
  cases slots : p.attribute? c with
  | none => exact .inl rfl
  | some slot =>
      refine .inr (Option.eq_none_iff_forall_ne_some.mpr fun type types => ?_)
      rw [h.attribute?_eq, Option.ite_none_right_eq_some] at slots
      rw [h.uniformType?_eq, Option.ite_none_right_eq_some] at types
      obtain ⟨a, found, -⟩ := Option.map_eq_some_iff.mp slots.2
      obtain ⟨d, found', -⟩ := Option.map_eq_some_iff.mp types.2
      obtain ⟨i, listed, -⟩ :=
        ProcedureBuilder.mem_attributeBindings_iff.mp (List.mem_of_find?_eq_some found)
      have left : a.channel.id = c.id := by simpa using List.find?_some found
      have right : d.id = c.id := by simpa using List.find?_some found'
      exact coherent.id_ne_id (List.mem_of_getElem? listed) (List.mem_of_find?_eq_some found')
        (left.trans right.symm)

/-- A builder that is linked at once has been composed. -/
theorem exists_composed {δ : Type} [Device δ ℓ] {b : ProcedureBuilder} {host host' : Host δ}
    {p : Procedure ℓ} (ran : (ofBuilder b : Action δ (Procedure ℓ)).run host = (.ok p, host')) :
    ∃ shader, b.compose = .ok shader ∧
      (link shader : Action δ (Procedure ℓ)).run host = (.ok p, host') := by
  rw [ofBuilder] at ran
  cases composed : b.compose with
  | error e =>
      rw [composed] at ran
      cases ran
  | ok shader =>
      rw [composed] at ran
      exact ⟨shader, rfl, ran⟩

end Procedure

section

variable {δ ℓ : Type} [Device δ ℓ] {device : δ} {config : RendererConfig} {window : Size}
  {s₀ : Scene δ ℓ} {steps more : List Step} {name : String} {b b' : ProcedureBuilder}

/-- After every script a builder holds its record, and all its channels are its own and told apart
by their ids. -/
theorem builder_of_run (created : Scene.create device config window = .ok s₀)
    (found : (Script.run steps s₀).2.builders.get? name = some b) :
    b.Records s₀.context (Script.record name (Script.history s₀ steps)) ∧ b.Coherent ∧
      b.Signed := by
  have empty : s₀.builders = .empty := by
    obtain ⟨templates, rfl⟩ := Scene.eq_of_create created
    rfl
  have start : s₀.Recorded s₀.context [] ∧ s₀.Scoped ∧ s₀.builders.All fun _ b => b.Signed := by
    refine ⟨⟨rfl, ?_⟩, .of_create created, ?_⟩ <;>
      · rw [empty]
        exact .empty
  obtain ⟨records, coherent, signed⟩ := Script.history_induction
    (I := fun ms s => s.Recorded s₀.context ms ∧ s.Scoped ∧ s.builders.All fun _ b => b.Signed)
    (fun _ _ _ _ t h => ⟨h.1.transition t, h.2.1.transition t, Scene.signed_transition h.2.2 t⟩)
    steps start
  exact ⟨records.builders name b found, coherent.coherent name b found, signed name b found⟩

end

def bareScene : Scene Headless String := .start {} ⟨4, 4⟩ .bare .bare

end SpriteRenderer
