import SpriteRenderer.Proofs.Device.Linking
import SpriteRenderer.Proofs.Procedure.Numbering
import SpriteRenderer.Proofs.Template.Lined

/-! # Uniforms of procedures

If the template has the uniforms on a line of their own, every operation channel of a procedure
is found on the headless device, whatever else the shaders are composed of. -/

namespace SpriteRenderer

/-- Every operation channel has a location, which is its name, and only the size of the target
is located besides. -/
structure Procedure.Located (p : Procedure String) : Prop where
  uniforms : ∀ u ∈ p.uniforms, u.location = some s!"c{u.channel}"
  ascending : (p.uniforms.map (·.channel)).Pairwise (· < ·)
  screenSize : ∀ location, p.screenSize = some location → location = screenSizeName

namespace ProcedureBuilder

/-- A builder makes its operation channels in the order of their ids. -/
structure Ordered (templates : ShaderTemplates) (b : ProcedureBuilder) : Prop where
  templates : b.templates = templates
  ascending : (b.uniforms.map (·.id)).Pairwise (· < ·)
  fresh : ∀ c ∈ b.uniforms, c.id < b.nextChannel

namespace Ordered

variable {templates : ShaderTemplates} {b : ProcedureBuilder}

theorem addOperation (h : b.Ordered templates) (type : ShaderType) :
    (b.addOperation type).2.Ordered templates := by
  refine ⟨h.templates, ?_, fun c hc => ?_⟩
  · change ((b.uniforms ++ [b.fresh .perDraw type]).map (·.id)).Pairwise (· < ·)
    rw [List.map_append, List.pairwise_append]
    refine ⟨h.ascending, List.pairwise_singleton _ _, fun i hi j hj => ?_⟩
    obtain ⟨c, hc, rfl⟩ := List.mem_map.mp hi
    rw [List.mem_singleton.mp hj]
    exact h.fresh c hc
  · rcases List.mem_append.mp hc with hc | hc
    · exact Nat.lt_succ_of_lt (h.fresh c hc)
    · rw [List.mem_singleton.mp hc]
      exact Nat.lt_succ_self _

/-- Another channel takes an id, too. -/
theorem skip (h : b.Ordered templates) : ∀ c ∈ b.uniforms, c.id < b.nextChannel + 1 :=
  fun c hc => Nat.lt_succ_of_lt (h.fresh c hc)

theorem ofBuilder_yields (h : b.Ordered templates) {source : String} {required : List Slot}
    (parsed : Template.parse source required = .ok templates.vertex)
    (alone : Template.AloneOnLine .uniforms source.toList) :
    (Procedure.ofBuilder b : Action Headless (Procedure String)).Yields Procedure.Located := by
  refine .bind (.ofExcept fun _ => id) fun shader composed =>
    (Headless.link_ensures shader).yields.mono fun p linked => ?_
  obtain ⟨size, uniforms⟩ := linked
  obtain ⟨-, rfl⟩ := eq_of_compose composed
  refine ⟨fun u hu => ?_, ?_, fun location located => ?_⟩
  · rw [uniforms] at hu
    obtain ⟨c, hc, rfl⟩ := List.mem_map.mp hu
    rw [← h.templates] at parsed
    exact if_pos (declares_uniforms parsed alone hc _)
  · rw [uniforms, List.map_map]
    exact h.ascending
  · rw [size, Headless.located] at located
    split at located <;> cases located
    rfl

end Ordered

end ProcedureBuilder

/-! ## Scenes -/

namespace Scene

variable {templates : ShaderTemplates} {s : Scene Headless String}

/-- Every value of an operation has a place to go to. -/
structure Uploads (templates : ShaderTemplates) (s : Scene Headless String) : Prop where
  context : s.context.templates = templates
  builders : s.builders.All fun _ b => b.Ordered templates
  procedures : s.EveryProcedure Procedure.Located
  values : s.operations.All fun _ op =>
    op.values.All fun id _ => id ∈ op.procedure.uniforms.map (·.channel)

namespace Uploads

theorem of_create {device : Headless} {config : RendererConfig} {window : Size}
    (created : Scene.create device config window = .ok s) : s.Uploads s.context.templates := by
  obtain ⟨templates, rfl⟩ := Scene.eq_of_create created
  exact ⟨rfl, .empty, ⟨.empty, .empty⟩, .empty⟩

/-- No step gives a builder other templates or disturbs its operation channels. -/
theorem builders_transition (h : s.Uploads templates) {step : Step}
    {out : Except StepError Answer × Scene Headless String} (t : Script.Transition s step out) :
    out.2.context = s.context ∧ out.2.builders.All fun _ b => b.Ordered templates := by
  cases t with
  | newBuilder as => exact ⟨rfl, h.builders.insert ⟨h.context, .nil, fun _ hc => nomatch hc⟩⟩
  | addAttribute _ found | addIntermediate _ found =>
      have old := h.builders _ _ found
      exact ⟨rfl, h.builders.insert ⟨old.templates, old.ascending, old.skip⟩⟩
  | addOperation _ found =>
      exact ⟨rfl, h.builders.insert ((h.builders _ _ found).addOperation _)⟩
  | call _ _ found called =>
      obtain ⟨rfl, -⟩ := ProcedureBuilder.eq_of_call called
      have old := h.builders _ _ found
      exact ⟨rfl, h.builders.insert ⟨old.templates, old.ascending, old.fresh⟩⟩
  | setOutput _ found bound =>
      obtain ⟨rfl, -⟩ := ProcedureBuilder.eq_of_setOutput bound
      have old := h.builders _ _ found
      exact ⟨rfl, h.builders.insert ⟨old.templates, old.ascending, old.fresh⟩⟩
  | finish found ran => exact ⟨rfl, h.builders.erase _⟩
  | _ => exact ⟨rfl, h.builders⟩

/-- An operation accepts values for channels of its procedure only. -/
theorem values_transition (h : s.Uploads templates) {step : Step}
    {out : Except StepError Answer × Scene Headless String} (t : Script.Transition s step out) :
    out.2.operations.All fun _ op =>
      op.values.All fun id _ => id ∈ op.procedure.uniforms.map (·.channel) := by
  cases t with
  | newOperation found ran =>
      refine h.values.insertOk fun op hop => ?_
      obtain ⟨_, rfl⟩ := Operation.create_yields_new _ _ op _ (hop ▸ ran)
      exact .empty
  | setAttribute _ _ found ran =>
      refine h.values.insertOk fun op hop => ?_
      obtain ⟨_, rfl⟩ := Operation.setAttribute_yields_bindings _ _ _ _ _ _ op _ (hop ▸ ran)
      exact (h.values _ _ found :)
  | setValue _ found stored =>
      obtain ⟨u, hu, same, -⟩ := Operation.exists_uniform_of_setValue stored
      rw [Operation.eq_of_setValue stored]
      refine h.values.insert ?_
      exact (h.values _ _ found).insert (same ▸ List.mem_map_of_mem hu)
  | setSprite _ found ran =>
      refine h.values.insertOk fun op hop => ?_
      obtain ⟨_, -, rfl⟩ := Operation.setSprite_yields_range _ _ _ _ op _ (hop ▸ ran)
      exact (h.values _ _ found :)
  | setAmount found => exact h.values.insert (h.values _ _ found :)
  | freeOperation found => exact h.values.erase _
  | _ => exact h.values

theorem transition (h : s.Uploads templates) {source : String} {required : List Slot}
    (parsed : Template.parse source required = .ok templates.vertex)
    (alone : Template.AloneOnLine .uniforms source.toList) {step : Step}
    {out : Except StepError Answer × Scene Headless String} (t : Script.Transition s step out) :
    out.2.Uploads templates := by
  obtain ⟨context, builders⟩ := h.builders_transition t
  have located : s.builders.All fun _ b =>
      (Procedure.ofBuilder b : Action Headless (Procedure String)).Yields Procedure.Located :=
    h.builders.mono fun _ _ _ ordered => ordered.ofBuilder_yields parsed alone
  exact ⟨context ▸ h.context, builders, h.procedures.transition located t, h.values_transition t⟩

end Uploads

end Scene

end SpriteRenderer
