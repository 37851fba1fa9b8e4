import SpriteRenderer.Device.Headless
import SpriteRenderer.Procedure.Linking
import SpriteRenderer.Proofs.Action.Results
import SpriteRenderer.Proofs.Device.Recording

/-! # Linking on the headless device

The sources of the shaders attached to a program are what is linked, whatever the device did
before. So a procedure that links has located exactly the uniforms that its sources declare. -/

namespace SpriteRenderer

namespace Headless

variable (d : Headless)

theorem get?_updateShader (h : Handle) (f : Shader → Shader) (shader : Handle) :
    (d.updateShader h f).shaders.get? shader =
      if shader = h then (d.shaders.get? h).map f else d.shaders.get? shader := by
  unfold updateShader
  split
  · next s found => rw [Table.get?_insert, found, Option.map_some]
  · next none =>
      by_cases same : shader = h
      · rw [if_pos same, same, none, Option.map_none]
      · rw [if_neg same]

theorem get?_updateProgram (h : Handle) (f : Program → Program) (program : Handle) :
    (d.updateProgram h f).programs.get? program =
      if program = h then (d.programs.get? h).map f else d.programs.get? program := by
  unfold updateProgram
  split
  · next p found => rw [Table.get?_insert, found, Option.map_some]
  · next none =>
      by_cases same : program = h
      · rw [if_pos same, same, none, Option.map_none]
      · rw [if_neg same]

theorem shaders_updateProgram (h : Handle) (f : Program → Program) :
    (d.updateProgram h f).shaders = d.shaders := by
  unfold updateProgram
  split <;> rfl

theorem shaders_register_shader (stage : UInt32) (h : Handle) :
    (d.register (.shader stage) h).shaders = d.shaders.insert h {} := rfl

theorem shaders_register_program (h : Handle) : (d.register .program h).shaders = d.shaders := rfl

theorem programs_register_program (h : Handle) :
    (d.register .program h).programs = d.programs.insert h {} := rfl

theorem create_of_ok {o : NewObject} {h : Handle} (made : (d.create o).1 = .ok h) :
    h = d.lastHandle + 1 ∧ (d.create o).2.lastHandle = h ∧
      (d.create o).2.shaders = (d.register o h).shaders ∧
      (d.create o).2.programs = (d.register o h).programs := by
  unfold create at made ⊢
  split at made
  · cases made
  · cases made
    cases o <;> exact ⟨rfl, rfl, rfl, rfl⟩

/-- Where a program linked from a source keeps a uniform. -/
def located (source name : String) : Option String :=
  if declares source name then some name else none

end Headless

namespace Host

/-- These shaders exist and have these sources. -/
def Sources (known : List (Handle × String)) (h : Host Headless) : Prop :=
  ∀ x ∈ known, x.1 ≤ h.device.lastHandle ∧
    (h.device.shaders.get? x.1).map Headless.Shader.source = some x.2

/-- A program was linked from a source, and was linked well or not. -/
def Linked (program : Handle) (source : String) (linked : Bool) (h : Host Headless) : Prop :=
  ∃ p, h.device.programs.get? program = some p ∧ p.linkedSource = source ∧ p.linked = linked

end Host

namespace Headless

open Attempt

variable {known : List (Handle × String)} {program : Handle} {source : String}

/-! ## Shaders -/

/-- What an action of the library asks the device to create. -/
theorem create_ensures {P : Host Headless → Prop} {Q : Handle → Host Headless → Prop}
    {o : NewObject} (made : ∀ h : Host Headless, P h → (h.device.create o).1 =
      .ok (h.device.lastHandle + 1) → Q (h.device.lastHandle + 1)
        { h with device := (h.device.create o).2 }) :
    Ensures P (Action.create o : Action Headless Handle) Q := by
  intro h handle h' hP ran
  obtain ⟨ok, rfl⟩ := Prod.mk.inj
    (ran : ((h.device.create o).1, { h with device := (h.device.create o).2 }) = (.ok handle, h'))
  obtain ⟨rfl, -⟩ := h.device.create_of_ok ok
  exact made h hP ok

theorem ask_ensures {α : Type} {P : Host Headless → Prop} (f : Headless → α) :
    Ensures P (Action.query fun d => (f d, d) : Action Headless α)
      fun a h => P h ∧ a = f h.device := by
  rintro h a h' hP ran
  cases ran
  exact ⟨hP, rfl⟩

/-- A new shader has an empty source. -/
theorem create_shader_ensures (stage : UInt32) :
    Ensures (Host.Sources known) (Action.create (.shader stage) : Action Headless Handle)
      fun shader h => h.Sources ((shader, "") :: known) ∧ ∀ x ∈ known, x.1 ≠ shader := by
  refine create_ensures fun h sources ok => ?_
  obtain ⟨-, lastHandle, shaders, -⟩ := h.device.create_of_ok ok
  have others : ∀ x ∈ known, x.1 ≠ h.device.lastHandle + 1 := fun x hx same =>
    absurd (same ▸ (sources x hx).1) (Nat.not_succ_le_self _)
  refine ⟨fun x hx => ?_, others⟩
  rw [lastHandle, shaders, shaders_register_shader]
  rcases List.mem_cons.mp hx with rfl | hx
  · simp
  · rw [Table.get?_insert_of_ne _ _ (others x hx)]
    exact ⟨Nat.le_succ_of_le (sources x hx).1, (sources x hx).2⟩

/-- What a shader is compiled from replaces its source, and no other one. -/
theorem source_performAll_compilation (h : Host Headless) (shader : Handle) (source : String)
    (k : Handle) :
    ((h.performAll [.shaderSource shader source, .compileShader shader]).device.shaders.get?
      k).map Shader.source =
      if k = shader then (h.device.shaders.get? shader).map fun _ => source
      else (h.device.shaders.get? k).map Shader.source := by
  change ((compile (record (h.device.updateShader shader ({ · with source })) _)
    shader).shaders.get? k).map Shader.source = _
  rw [compile, get?_updateShader]
  change Option.map _ (if k = shader then
    Option.map _ ((h.device.updateShader shader ({ · with source })).shaders.get? shader)
    else (h.device.updateShader shader ({ · with source })).shaders.get? k) = _
  rw [get?_updateShader, get?_updateShader]
  by_cases same : k = shader
  · simp [same, Function.comp_def]
  · simp [same]

theorem compile_ensures (known : List (Handle × String)) (stage : ShaderStage) (source : String) :
    Ensures (Host.Sources known) (Procedure.compile stage source : Action Headless Handle)
      fun shader h => h.Sources ((shader, source) :: known) := by
  refine .bind (create_shader_ensures _) fun shader =>
    .bind (.modify (Q := Host.Sources ((shader, source) :: known)) ?_) fun _ =>
      .bind (ask_ensures _) fun compiled => ?_
  · rintro h ⟨sources, others⟩ x hx
    rw [Host.lastHandle_performAll, source_performAll_compilation]
    rcases List.mem_cons.mp hx with rfl | hx
    · obtain ⟨known, empty⟩ := sources _ List.mem_cons_self
      obtain ⟨s, found, -⟩ := Option.map_eq_some_iff.mp empty
      exact ⟨known, by simp [found]⟩
    · rw [if_neg (others x hx)]
      exact sources x (List.mem_cons_of_mem _ hx)
  · split
    · exact .pure fun _ => And.left
    · exact .bind (.any _) fun _ => .bind (.any _) fun _ => .bind (.any _) fun _ => .fail _

/-! ## Programs -/

theorem perform_update (h : Host Headless) {c : Command String} {f : Program → Program}
    (effect : h.device.effect c = h.device.updateProgram program f) :
    (h.perform c).device.programs.get? program = (h.device.programs.get? program).map f ∧
      (h.perform c).device.shaders = h.device.shaders := by
  change (h.device.effect c).programs.get? program = _ ∧ (h.device.effect c).shaders = _
  rw [effect, get?_updateProgram, if_pos rfl, shaders_updateProgram]
  exact ⟨rfl, rfl⟩

theorem create_program_ensures :
    Ensures (Host.Sources known) (Action.create .program : Action Headless Handle)
      fun program h => h.Sources known ∧ h.device.programs.get? program = some {} := by
  refine create_ensures fun h sources ok => ?_
  obtain ⟨-, lastHandle, shaders, programs⟩ := h.device.create_of_ok ok
  refine ⟨fun x hx => ?_, ?_⟩
  · rw [lastHandle, shaders, shaders_register_program]
    exact ⟨Nat.le_succ_of_le (sources x hx).1, (sources x hx).2⟩
  · rw [programs, programs_register_program, Table.get?_insert_self]

/-- Whether linking fails or not, the program has the sources of its shaders. -/
theorem linkedSource_link {d : Headless} {p : Program} (found : d.programs.get? program = some p) :
    ∃ q, (d.link program).programs.get? program = some q ∧
      q.linkedSource =
        "\n".intercalate ((d.attachedShaders p).filterMap (Option.map Shader.source)) := by
  rw [link, get?_updateProgram, if_pos rfl]
  change ∃ q, Option.map _ (d.programs.get? program) = some q ∧ _
  rw [found]
  refine ⟨_, rfl, ?_⟩
  dsimp only
  split
  · rfl
  · split <;> rfl

/-- The sources of two shaders are linked in the order in which they are attached. -/
theorem linked_performAll {h : Host Headless} {vertex fragment : Handle}
    {vertexSource fragmentSource : String}
    (sources : h.Sources [(fragment, fragmentSource), (vertex, vertexSource)])
    (new : h.device.programs.get? program = some {}) :
    ∃ linked, (h.performAll [.attachShader program vertex, .attachShader program fragment,
      .linkProgram program]).Linked program ("\n".intercalate [vertexSource, fragmentSource])
        linked := by
  let first := h.perform (.attachShader program vertex)
  let second := first.perform (.attachShader program fragment)
  obtain ⟨program₁, shaders₁⟩ := perform_update h (c := .attachShader program vertex) rfl
  obtain ⟨program₂, shaders₂⟩ := perform_update first (c := .attachShader program fragment) rfl
  have attached : second.device.programs.get? program =
      some { attached := [vertex, fragment] } := by
    rw [program₂, program₁, new]
    rfl
  obtain ⟨q, found, source⟩ := linkedSource_link attached
  refine ⟨q.linked, q, found, ?_, rfl⟩
  obtain ⟨f, foundFragment, rfl⟩ := Option.map_eq_some_iff.mp (sources _ List.mem_cons_self).2
  obtain ⟨v, foundVertex, rfl⟩ :=
    Option.map_eq_some_iff.mp (sources (vertex, vertexSource) (by simp)).2
  simp [source, attachedShaders, second, shaders₂, first, shaders₁, foundFragment, foundVertex]

/-- What is done with the shaders of a program once it is linked does not touch it. -/
theorem linked_performAll_cleanup {h : Host Headless} {linked : Bool} {vertex fragment : Handle}
    (kept : h.Linked program source linked) :
    (h.performAll [.detachShader program vertex, .delete .shader vertex,
      .detachShader program fragment, .delete .shader fragment]).Linked program source linked := by
  have detach {h : Host Headless} (kept : h.Linked program source linked) (s : Handle) :
      (h.perform (.detachShader program s)).Linked program source linked := by
    obtain ⟨p, found, rfl, rfl⟩ := kept
    refine ⟨{ p with attached := p.attached.filter (· ≠ s) }, ?_, rfl, rfl⟩
    rw [(perform_update h rfl).1, found]
    rfl
  have delete {h : Host Headless} (kept : h.Linked program source linked) (s : Handle) :
      (h.perform (.delete .shader s)).Linked program source linked := kept
  exact delete (detach (delete (detach kept vertex) vertex) fragment) fragment

theorem locate_of_linked {h : Host Headless} (linked : h.Linked program source true)
    (name : String) : h.device.locate program name = located source name := by
  obtain ⟨p, found, rfl, ok⟩ := linked
  simp [locate, found, ok, located]

theorem locate_ensures (name : String) :
    Ensures (Host.Linked program source true)
      (Action.query fun d : Headless => Device.locate d program name) fun location h =>
        h.Linked program source true ∧ location = located source name := by
  rintro h location h' linked ran
  cases ran
  exact ⟨linked, locate_of_linked linked name⟩

theorem locateAll_ensures (cs : List Channel) :
    Ensures (Host.Linked program source true)
      (Procedure.locateAll program cs : Action Headless (List (UniformSlot String)))
      fun uniforms h => h.Linked program source true ∧
        uniforms = cs.map fun c => ⟨c.id, c.type, located source c.name⟩ := by
  induction cs with
  | nil => exact .pure fun h linked => ⟨linked, rfl⟩
  | cons c cs ih =>
      refine .bind (locate_ensures c.name) fun location => .given fun first =>
        .bind ih fun uniforms => .given fun rest => .pure fun h linked => ⟨linked, ?_⟩
      rw [first, rest, List.map_cons]

/-- A procedure that links has located what its sources declare. -/
theorem link_ensures (shader : ComposedShader) :
    Ensures (fun _ => True) (Procedure.link shader : Action Headless (Procedure String))
      fun p _ =>
        p.screenSize = located ("\n".intercalate [shader.vertexSource, shader.fragmentSource])
          Procedure.screenSizeName ∧
        p.uniforms = shader.uniforms.map fun c => ⟨c.id, c.type,
          located ("\n".intercalate [shader.vertexSource, shader.fragmentSource]) c.name⟩ := by
  let source := "\n".intercalate [shader.vertexSource, shader.fragmentSource]
  refine .bind ((compile_ensures [] .vertex shader.vertexSource).mono
    (fun _ _ _ hx => nomatch hx) fun _ _ => id) fun vertex =>
    .bind (compile_ensures _ .fragment shader.fragmentSource).onFailure fun fragment =>
    .bind create_program_ensures.onFailure fun program =>
    .bind (.modify (Q := fun h => ∃ linked, h.Linked program source linked) fun h made =>
      linked_performAll made.1 made.2) fun _ =>
    .bind (ask_ensures _) fun ok => .bind (.modify (Q := Host.Linked program source ok) ?_)
      fun _ => ?_
  · rintro h ⟨⟨-, p, found, linkedFrom, -⟩, rfl⟩
    refine linked_performAll_cleanup ⟨p, found, linkedFrom, ?_⟩
    change p.linked = (h.device.programs.get? program).any Program.linked
    rw [found, Option.any_some]
  · cases ok with
    | true =>
        exact .bind (locate_ensures _) fun screenSize => .given fun size =>
          .bind (locateAll_ensures _) fun uniforms => .given fun located =>
            .pure fun _ _ => ⟨size, located⟩
    | false => exact .bind (.any _) fun _ => .bind (.any _) fun _ => .bind (.any _) fun _ => .fail _

end Headless

end SpriteRenderer
