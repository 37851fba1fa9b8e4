import SpriteRenderer.Proofs.Action.Outcomes
import SpriteRenderer.Proofs.Action.Refusal
import SpriteRenderer.Proofs.Device.Recorder
import SpriteRenderer.Proofs.Drawing.OwnState
import SpriteRenderer.Proofs.Procedure.Locations
import SpriteRenderer.Proofs.Script.Footprint

/-! # Words as signed numbers

Counts and sizes are words, the device takes signed numbers. A word of 2³¹ or more becomes a
negative number on the way, and nothing refuses it. -/

namespace SpriteRenderer

/-- What a number of a device call stands for. -/
inductive Quantity where
  | width | height
  /-- The number of indices. -/
  | count
  /-- The byte at which the indices begin. -/
  | offset
  | instances
deriving DecidableEq, Repr

namespace DeviceCall

/-- The counts and sizes that a call hands to the device. -/
def numbers : DeviceCall → List (Quantity × Int32)
  | performed (.viewport area) => [(.width, area.width), (.height, area.height)]
  | performed (.uniform location (.ints (.two width height))) =>
    if location = Procedure.screenSizeName then [(.width, width), (.height, height)] else []
  | performed (.texStorage2D _ _ width height _ _)
  | performed (.renderbufferStorageMultisample _ _ width height) =>
    [(.width, width), (.height, height)]
  | performed (.drawElementsInstanced _ count _ offset instances) =>
    [(.count, count), (.offset, offset), (.instances, instances)]
  | _ => []

/-- A number that is narrowed from a word stands for it exactly if it is less than 2³¹. -/
def Narrows (n : Nat) (i : Int32) : Prop := n < 2 ^ 32 → (i.toInt = n ↔ n < 2 ^ 31)

/-- Every number of a call is narrowed from the value that it stands for. -/
def StandsFor (value? : Quantity → Option Nat) (call : DeviceCall) : Prop :=
  ∀ q i, (q, i) ∈ call.numbers → ∃ n, value? q = some n ∧ Narrows n i

theorem narrows_toInt32 (n : UInt32) : Narrows n.toNat n.toInt32 := by
  intro _
  refine ⟨fun same => ?_, toInt_toInt32⟩
  have below := n.toInt32.toInt_lt
  omega

/-- The product wraps only beyond a word. -/
theorem narrows_mul (n : UInt32) : Narrows (4 * n.toNat) (n * 4).toInt32 := by
  intro word
  have product : (n * 4).toNat = 4 * n.toNat := by
    rw [UInt32.toNat_mul, Nat.mul_comm]
    exact Nat.mod_eq_of_lt word
  rw [← product] at word ⊢
  exact narrows_toInt32 _ word

theorem StandsFor.of_numbers {value? : Quantity → Option Nat} {call : DeviceCall}
    (none : call.numbers = []) : call.StandsFor value? := by
  intro q i mem
  rw [none] at mem
  cases mem

/-- Facilities whose commands have no counts and no sizes. -/
def numberless : List Facility := [.buffers, .vertexArrays, .shaders, .framebuffers]

theorem numbers_of_facility {c : Command String} (h : c.facility ∈ numberless) :
    numbers (.performed c) = [] := by
  cases c with
  | uniform => simp [numberless] at h
  | viewport | texStorage2D | renderbufferStorageMultisample | drawElementsInstanced =>
      simp [numberless] at h
  | _ => rfl

/-- The values that numbers stand for include a size. -/
structure MeansSize (value? : Quantity → Option Nat) (size : Size) : Prop where
  width : value? .width = some size.width.toNat
  height : value? .height = some size.height.toNat

theorem StandsFor.of_size {value? : Quantity → Option Nat} {size : Size}
    (means : MeansSize value? size) {call : DeviceCall}
    (numbers : call.numbers =
      [(.width, size.width.toInt32), (.height, size.height.toInt32)]) :
    call.StandsFor value? := by
  intro q i mem
  rw [numbers] at mem
  simp only [List.mem_cons, Prod.mk.injEq, List.not_mem_nil, or_false] at mem
  rcases mem with ⟨rfl, rfl⟩ | ⟨rfl, rfl⟩
  · exact ⟨_, means.width, narrows_toInt32 _⟩
  · exact ⟨_, means.height, narrows_toInt32 _⟩

end DeviceCall

/-! ## Calls with numbers -/

open DeviceCall (StandsFor MeansSize)

section

variable {value? : Quantity → Option Nat} {size : Size}

namespace Attachments

theorem standsFor_textureCommands (means : MeansSize value? size) (texture : Handle)
    (internalFormat format type attachment : UInt32) :
    ∀ c ∈ (textureCommands texture internalFormat format type attachment size.width.toInt32
      size.height.toInt32 : List (Command String)),
      (DeviceCall.performed c).StandsFor value? := by
  simp only [textureCommands, List.forall_mem_cons]
  exact ⟨.of_numbers rfl, .of_size means rfl, .of_numbers rfl, .of_numbers rfl,
    .of_numbers rfl, List.forall_mem_nil _⟩

theorem standsFor_renderbufferCommands (means : MeansSize value? size) (renderbuffer : Handle)
    (samples : Int32) (internalFormat attachment : UInt32) :
    ∀ c ∈ (renderbufferCommands renderbuffer samples internalFormat attachment
      size.width.toInt32 size.height.toInt32 : List (Command String)),
      (DeviceCall.performed c).StandsFor value? := by
  simp only [renderbufferCommands, List.forall_mem_cons]
  exact ⟨.of_numbers rfl, .of_size means rfl, .of_numbers rfl, List.forall_mem_nil _⟩

theorem standsFor_storageCommands (a : Attachments) (means : MeansSize value? size) :
    ∀ c ∈ (a.storageCommands size : List (Command String)),
      (DeviceCall.performed c).StandsFor value? := by
  cases a with
  | textures color depth =>
      simp only [storageCommands, List.forall_mem_append, List.forall_mem_singleton]
      exact ⟨⟨standsFor_textureCommands means _ _ _ _ _,
        standsFor_textureCommands means _ _ _ _ _⟩, .of_numbers rfl⟩
  | renderbuffers color depth samples =>
      simp only [storageCommands, List.forall_mem_append, List.forall_mem_singleton]
      exact ⟨⟨standsFor_renderbufferCommands means _ _ _ _,
        standsFor_renderbufferCommands means _ _ _ _⟩, .of_numbers rfl⟩

end Attachments

namespace Procedure

/-- The uniforms of channels are not where the size of the target is kept. -/
def SizeApart (p : Procedure String) : Prop :=
  ∀ u ∈ p.uniforms, u.location ≠ some screenSizeName

theorem ofBuilder_yields_sizeApart (b : ProcedureBuilder) :
    (ofBuilder b : Action Headless (Procedure String)).Yields SizeApart := by
  refine .bind (.any _) fun shader _ => link_yields shader (fun _ => .any _)
    (locateAll_yields · _) fun program screenSize uniforms _ sub u hu located => ?_
  have listed := sub.subset (List.mem_filterMap.mpr ⟨u, hu, located⟩)
  obtain ⟨c, -, same⟩ := List.mem_map.mp listed
  exact c.name_ne_screenSizeName same

end Procedure

namespace Operation

variable {op : Operation String}

theorem standsFor_uniformCommands (apart : op.procedure.SizeApart) :
    ∀ c ∈ op.uniformCommands, (DeviceCall.performed c).StandsFor value? := by
  intro c hc
  obtain ⟨u, hu, upload⟩ := List.mem_filterMap.mp hc
  obtain ⟨location, located, upload⟩ := Option.bind_eq_some_iff.mp upload
  obtain ⟨value, -, upload⟩ := Option.bind_eq_some_iff.mp upload
  cases upload
  have other : location ≠ Procedure.screenSizeName := fun same => apart u hu (same ▸ located)
  apply StandsFor.of_numbers
  unfold DeviceCall.numbers
  split <;> simp_all

theorem standsFor_screenSizeCommands (op : Operation String) (means : MeansSize value? size) :
    ∀ c ∈ op.screenSizeCommands size, (DeviceCall.performed c).StandsFor value? := by
  intro c hc
  unfold screenSizeCommands at hc
  split at hc
  case h_2 => cases hc
  case h_1 location found =>
      rw [List.mem_singleton.mp hc]
      by_cases own : location = Procedure.screenSizeName
      · exact .of_size means (if_pos own)
      · exact .of_numbers (if_neg own)

theorem standsFor_drawCommands (apart : op.procedure.SizeApart) (t : RenderTarget)
    (means : MeansSize value? size) {first count : UInt32}
    (counted : value? .count = some count.toNat) (begins : value? .offset = some (4 * first.toNat))
    (instances : value? .instances = some op.amount.toNat) :
    ∀ c ∈ op.drawCommands t size first count, (DeviceCall.performed c).StandsFor value? := by
  have drawn : (DeviceCall.performed (.drawElementsInstanced Gl.triangles count.toInt32
      Gl.unsignedInt (first * 4).toInt32 op.amount.toInt32)).StandsFor value? := by
    intro q i mem
    simp only [DeviceCall.numbers, List.mem_cons, Prod.mk.injEq, List.not_mem_nil, or_false] at mem
    rcases mem with ⟨rfl, rfl⟩ | ⟨rfl, rfl⟩ | ⟨rfl, rfl⟩
    · exact ⟨_, counted, DeviceCall.narrows_toInt32 _⟩
    · exact ⟨_, begins, DeviceCall.narrows_mul _⟩
    · exact ⟨_, instances, DeviceCall.narrows_toInt32 _⟩
  simp only [drawCommands, List.forall_mem_append, List.forall_mem_cons]
  exact ⟨⟨⟨⟨.of_numbers rfl, .of_size means rfl, .of_numbers rfl, .of_numbers rfl,
    List.forall_mem_nil _⟩, standsFor_uniformCommands apart⟩,
    op.standsFor_screenSizeCommands means⟩, drawn, .of_numbers rfl, List.forall_mem_nil _⟩

end Operation

/-! ## Calls of the library -/

open Attempt (Preserves)
open Host (Adds)

variable {h₀ : Host Headless}

theorem performed_standsFor {cs : List (Command String)}
    (numbers : ∀ c ∈ cs, (DeviceCall.performed c).numbers = []) :
    ∀ c ∈ cs, (DeviceCall.performed c).StandsFor value? :=
  fun c hc => .of_numbers (numbers c hc)

theorem Action.create_adds (o : NewObject) :
    Preserves (Adds (StandsFor value?) h₀) (Action.create o : Action Headless Handle) :=
  fun _ added => added.create fun _ => .of_numbers rfl

theorem Action.perform_adds {cs : List (Command String)}
    (numbers : ∀ c ∈ cs, (DeviceCall.performed c).StandsFor value?) :
    Preserves (Adds (StandsFor value?) h₀) (Action.perform cs : Action Headless Unit) :=
  .modify fun _ added => added.performAll numbers

theorem Action.orElsePerform_adds {α : Type} {x : Action Headless α} {cs : List (Command String)}
    (hx : Preserves (Adds (StandsFor value?) h₀) x)
    (numbers : ∀ c ∈ cs, (DeviceCall.performed c).StandsFor value?) :
    Preserves (Adds (StandsFor value?) h₀) (x.orElsePerform cs) :=
  .onFailure hx fun _ added => added.performAll numbers

namespace Offscreen

theorem allocate_adds (t : Offscreen) (means : MeansSize value? t.size) :
    Preserves (Adds (StandsFor value?) h₀) (t.allocate : Action Headless Unit) := by
  refine .bind (Action.perform_adds ?_) fun _ => .bind (fun _ added => added) fun status =>
    .bind (Action.perform_adds (performed_standsFor (by simp [DeviceCall.numbers]))) fun _ => ?_
  · rw [List.forall_mem_cons]
    exact ⟨.of_numbers rfl, t.attachments.standsFor_storageCommands means⟩
  · split
    · exact .pure ()
    · exact .fail _

theorem createAttachments_adds (multisampled : Bool) (samples : Int32) :
    Preserves (Adds (StandsFor value?) h₀)
      (createAttachments multisampled samples : Action Headless Attachments) := by
  unfold createAttachments
  split <;>
    exact .bind (Action.create_adds _) fun _ => .bind (Action.orElsePerform_adds
      (Action.create_adds _) (performed_standsFor (by simp [DeviceCall.numbers]))) fun _ => .pure _

theorem numbers_deleteCommands (t : Offscreen) :
    ∀ c ∈ (t.deleteCommands : List (Command String)), (DeviceCall.performed c).numbers = [] := by
  obtain ⟨framebuffer, attachments, size⟩ := t
  cases attachments <;>
    simp [deleteCommands, Attachments.deleteCommands, DeviceCall.numbers]

end Offscreen

namespace RenderTarget

theorem create_adds (means : MeansSize value? size) (multisampled : Bool) (samples : Int32) :
    Preserves (Adds (StandsFor value?) h₀)
      (create size multisampled samples : Action Headless RenderTarget) :=
  .bind (Action.create_adds _) fun _ =>
    .bind (Action.orElsePerform_adds (Offscreen.createAttachments_adds _ _)
      (performed_standsFor (by simp [DeviceCall.numbers]))) fun _ =>
    .bind (Action.orElsePerform_adds (Offscreen.allocate_adds _ means)
      (performed_standsFor (Offscreen.numbers_deleteCommands _))) fun _ => .pure _

end RenderTarget

end

/-! ## Steps -/

namespace Step

variable {δ ℓ : Type} {s : Scene δ ℓ}

/-- The size of the target that the step draws into or gives storage. -/
def size? (s : Scene δ ℓ) : Step → Option Size
  | draw _ target => (s.targets.get? target).map (·.size s.host.window)
  | newTarget size .. | resize _ size => some size
  | _ => none

/-- The first index, the number of indices and the number of instances of a draw. -/
def drawn? (s : Scene δ ℓ) : Step → Option (UInt32 × UInt32 × UInt32)
  | draw operation _ => do
    let op ← s.operations.get? operation
    let (first, count) ← op.sprite
    return (first, count, op.amount)
  | _ => none

/-- What the numbers of a step stand for. -/
def quantity? (s : Scene δ ℓ) (step : Step) : Quantity → Option Nat
  | .width => (step.size? s).map (·.width.toNat)
  | .height => (step.size? s).map (·.height.toNat)
  | .offset => (step.drawn? s).map fun (first, _, _) => 4 * first.toNat
  | .count => (step.drawn? s).map fun (_, count, _) => count.toNat
  | .instances => (step.drawn? s).map fun (_, _, amount) => amount.toNat

theorem meansSize {step : Step} {size : Size} (h : step.size? s = some size) :
    MeansSize (step.quantity? s) size :=
  ⟨congrArg (Option.map _) h, congrArg (Option.map _) h⟩

end Step

open Host (Adds) in
/-- Every number that a step hands to the device stands for a value that the step was given. -/
theorem Script.Transition.adds {s : Scene Headless String} {step : Step}
    {out : Except StepError Answer × Scene Headless String} (t : Transition s step out)
    (apart : s.EveryProcedure Procedure.SizeApart) :
    Adds (StandsFor (step.quantity? s)) s.host out.2.host := by
  by_cases numberless : step.facilities ⊆ DeviceCall.numberless
  · refine t.preserves (Adds.survives (fun c hc => ?_) (fun _ _ => .of_numbers rfl) fun _ =>
      .of_numbers rfl) (fun _ _ added => added.of_calls rfl) (.refl _)
    exact .of_numbers (DeviceCall.numbers_of_facility (numberless hc))
  cases t with
  | refused e => exact .refl _
  | asked query r => exact .refl _
  | newTarget ran =>
      exact (RenderTarget.create_adds (Step.meansSize rfl) _ _).of_run ran (.refl _)
  | @resize target size t t' r host found resized ran =>
      cases t with
      | primary => cases resized
      | offscreen t =>
          cases resized
          have means : MeansSize (Step.quantity? s (.resize target size)) size :=
            Step.meansSize rfl
          exact (Offscreen.allocate_adds { t with size } means).of_run ran (.refl _)
  | clear found =>
      exact Action.perform_adds (performed_standsFor
        (by simp [RenderTarget.bindCommand, DeviceCall.numbers])) _ (.refl _)
  | @blit target destination x y t d r host found placed ran =>
      unfold RenderTarget.blitTo at ran
      split at ran
      · cases ran
        exact .refl _
      · cases ran
        exact Action.perform_adds (performed_standsFor (by simp [DeviceCall.numbers])) _ (.refl _)
  | @freeTarget target t found =>
      cases t with
      | primary => exact .refl _
      | offscreen t =>
          exact Action.perform_adds (performed_standsFor t.numbers_deleteCommands) _ (.refl _)
  | @draw operation target t op r host aimed found ran =>
      rcases op.run_drawTo t s.host with ⟨-, record, warned⟩ | ⟨first, count, selected, -, drawn⟩
      · rw [ran] at warned
        cases warned
        exact (Adds.refl _).of_calls rfl
      · rw [ran] at drawn
        cases drawn
        have size : (Step.draw operation target).size? s = some (t.size s.host.window) :=
          congrArg (Option.map _) aimed
        have range : (Step.draw operation target).drawn? s = some (first, count, op.amount) := by
          simp [Step.drawn?, found, selected]
        refine (Adds.refl _).performAll (Operation.standsFor_drawCommands (apart.used _ _ found) t
          (Step.meansSize size) ?_ ?_ ?_)
        · exact congrArg (Option.map _) range
        · exact congrArg (Option.map _) range
        · exact congrArg (Option.map _) range
  | _ => exact absurd (by simp [Step.facilities, DeviceCall.numberless]) numberless

/-! ## Refusals -/

/-- The errors that are about no number. -/
inductive StepError.Numberless : StepError → Prop where
  | noObject (name : String) : Numberless (.noObject name)
  | primaryResized : Numberless (.refused (.invalidOperation .primaryResized))
  | creationRefused : Numberless (.refused (.backend .creationRefused))

theorem Headless.eq_of_create_error {d : Headless} {o : NewObject} {e : RenderError}
    (refused : (d.create o).1 = .error e) : e = .backend .creationRefused := by
  unfold create at refused
  split at refused
  · cases refused
    rfl
  · cases refused

/-- An error that only a refused creation leads to. -/
def RenderError.IsCreation (e : RenderError) : Prop := e = .backend .creationRefused

theorem Action.create_refuses (o : NewObject) :
    (Action.create o : Action Headless Handle).Refuses RenderError.IsCreation :=
  fun _ _ _ failed => Headless.eq_of_create_error (congrArg Prod.fst failed)

theorem Offscreen.createAttachments_refuses (multisampled : Bool) (samples : Int32) :
    (createAttachments multisampled samples : Action Headless Attachments).Refuses
      RenderError.IsCreation := by
  unfold createAttachments
  split <;>
    exact .bind (Action.create_refuses _) fun _ => .bind (.onFailure (Action.create_refuses _))
      fun _ => (Attempt.Succeeds.pure _).refuses

theorem RenderTarget.create_refuses (size : Size) (multisampled : Bool) (samples : Int32) :
    (create size multisampled samples : Action Headless RenderTarget).Refuses
      RenderError.IsCreation := by
  refine .bind (Action.create_refuses _) fun framebuffer =>
    .bind (.onFailure (Offscreen.createAttachments_refuses _ _)) fun attachments =>
    .bind (.onFailure (Attempt.Succeeds.refuses ?_)) fun _ => (Attempt.Succeeds.pure _).refuses
  exact allocate_succeeds (fun _ _ => rfl) (.offscreen ⟨framebuffer, attachments, size⟩)

theorem Operation.drawTo_succeeds (op : Operation String) (t : RenderTarget) :
    (op.drawTo t : Action Headless Unit).Succeeds := by
  intro h
  rcases op.run_drawTo t h with ⟨-, record, ran⟩ | ⟨first, count, -, -, ran⟩
  · exact ⟨_, _, ran⟩
  · exact ⟨_, _, ran⟩

namespace SceneAction

variable {α : Type}

theorem find_refuses (table : Scene Headless String → Table String α) (name : String) :
    (find table name).Refuses StepError.Numberless := by
  intro s e s' failed
  cases found : (table s).get? name with
  | none =>
      rw [run_find_of_none found] at failed
      cases failed
      exact .noObject name
  | some a =>
      rw [run_find_of_some found] at failed
      cases failed

theorem onHost_refuses {x : Action Headless α} {E : RenderError → Prop} (hx : x.Refuses E)
    (numberless : ∀ e, E e → StepError.Numberless (.refused e)) :
    (onHost x : SceneAction Headless String α).Refuses StepError.Numberless := by
  intro s e s' failed
  rw [run_onHost] at failed
  cases ran : x.run s.host with
  | mk r host =>
      rw [ran] at failed
      cases r with
      | ok a => cases failed
      | error e =>
          cases failed
          exact numberless e (hx _ _ _ ran)

end SceneAction

/-- No step is refused for a number that is too big. -/
theorem Script.perform_refuses {s : Scene Headless String} {step : Step}
    (sized : (step.size? s).isSome) :
    (perform step : SceneAction Headless String Answer).Refuses StepError.Numberless := by
  have told (a : Answer) :
      (pure a : SceneAction Headless String Answer).Refuses StepError.Numberless :=
    (Attempt.Succeeds.pure a).refuses
  cases step with
  | draw operation target =>
      rw [perform]
      exact .bind (SceneAction.find_refuses _ _) fun t => .bind (SceneAction.find_refuses _ _)
        fun op => .bind (SceneAction.onHost_refuses (op.drawTo_succeeds t).refuses
          fun _ => False.elim) fun _ => told _
  | newTarget size multisampled as samples =>
      rw [perform]
      refine .bind (Attempt.Succeeds.refuses fun s => ⟨_, _, rfl⟩) fun context =>
        .bind (SceneAction.onHost_refuses (RenderTarget.create_refuses _ _ _) ?_) fun t =>
        Attempt.Succeeds.refuses fun s => ⟨_, _, rfl⟩
      rintro _ rfl
      exact .creationRefused
  | resize target size =>
      rw [perform]
      refine .bind (SceneAction.find_refuses _ _) fun t => ?_
      cases t with
      | primary =>
          intro s e s' failed
          cases failed
          exact .primaryResized
      | offscreen t =>
          exact .bind (Attempt.Succeeds.refuses fun s => ⟨_, _, rfl⟩) fun t' =>
            .bind (Attempt.Succeeds.modify _).refuses fun _ =>
            .bind (SceneAction.onHost_refuses (RenderTarget.allocate_succeeds (fun _ _ => rfl)
              t').refuses fun _ => False.elim) fun _ => told _
  | _ => cases sized

/-! ## Sessions -/

namespace Headless

variable {config : RendererConfig} {window : Size} {s₀ : Scene Headless String}

theorem sizeApart_after (created : Scene.create ({} : Headless) config window = .ok s₀)
    (ds : List Directive) : (after s₀ ds).EveryProcedure Procedure.SizeApart := by
  have start : s₀.EveryProcedure Procedure.SizeApart := by
    obtain ⟨templates, rfl⟩ := Scene.eq_of_create created
    exact ⟨.empty, .empty⟩
  exact history_induction_of_host (I := fun _ s => s.EveryProcedure Procedure.SizeApart) start
    (fun _ _ _ _ t apart =>
      apart.transition (fun _ b _ => Procedure.ofBuilder_yields_sizeApart b) t)
    (fun _ _ _ _ _ apart => ⟨apart.named, apart.used⟩) ds

theorem adds_after (created : Scene.create ({} : Headless) config window = .ok s₀)
    (ds : List Directive) (step : Step) :
    Host.Adds (StandsFor (step.quantity? (after s₀ ds))) (after s₀ ds).host
      (after s₀ (ds ++ [.step step])).host := by
  rw [after_append]
  exact (Script.transition_perform step (after s₀ ds)).adds (sizeApart_after created ds)

/-- The counts and sizes that a step hands to the device are those that the step was given as far
as these are less than 2³¹. No step is refused because one is not. -/
theorem numbers_are_narrowed (created : Scene.create ({} : Headless) config window = .ok s₀)
    (ds : List Directive) (step : Step) :
    (∃ calls, (after s₀ (ds ++ [.step step])).host.device.calls =
        (after s₀ ds).host.device.calls ++ calls ∧
      ∀ call ∈ calls, call.StandsFor (step.quantity? (after s₀ ds))) ∧
    ((step.size? (after s₀ ds)).isSome →
      ∀ e, (moment (after s₀ ds) (.step step)).answer = .error e → e.Numberless) := by
  refine ⟨adds_after created ds step, ?_⟩
  intro sized e failed
  exact Script.perform_refuses sized (after s₀ ds) e _ (Prod.ext failed rfl)

/-- A draw of 2³¹ instances. -/
def drawnTooOften : List Directive := drawnInTurn ++ [.step (.setAmount "o" 2147483648)]

theorem instances_drawnTooOften :
    (Step.draw "o" "t").quantity? (after linedScene drawnTooOften) .instances =
      some 2147483648 := by
  decide +kernel

theorem numbers_are_narrowed_drawnTooOften :
    ∃ calls, (after linedScene (drawnTooOften ++ [.step (.draw "o" "t")])).host.device.calls =
        (after linedScene drawnTooOften).host.device.calls ++ calls ∧
      (∀ call ∈ calls, call.StandsFor
        ((Step.draw "o" "t").quantity? (after linedScene drawnTooOften))) ∧
      (moment (after linedScene drawnTooOften) (.step (.draw "o" "t"))).answer = .ok .nothing := by
  have created : Scene.create ({} : Headless) linedConfig ⟨4, 4⟩ = .ok linedScene :=
    Scene.create_of_parse parse_linedConfig _ _
  obtain ⟨⟨calls, recorded, stand⟩, -⟩ :=
    numbers_are_narrowed created drawnTooOften (.draw "o" "t")
  exact ⟨calls, recorded, stand, by decide +kernel⟩

/-- The device is told to draw a negative number of instances. -/
theorem not_every_number_exact :
    ¬ ∀ (ds : List Directive) (step : Step) (calls : List DeviceCall),
      (after linedScene (ds ++ [.step step])).host.device.calls =
        (after linedScene ds).host.device.calls ++ calls →
      ∀ call ∈ calls, ∀ q i, (q, i) ∈ call.numbers →
        ∃ n, step.quantity? (after linedScene ds) q = some n ∧ i.toInt = n := by
  intro every
  have created : Scene.create ({} : Headless) linedConfig ⟨4, 4⟩ = .ok linedScene :=
    Scene.create_of_parse parse_linedConfig _ _
  have drawn : DeviceCall.performed
      (.drawElementsInstanced Gl.triangles 3 Gl.unsignedInt 0 (-2147483648)) ∈
        (after linedScene (drawnTooOften ++ [.step (.draw "o" "t")])).host.device.calls.drop
          (after linedScene drawnTooOften).host.device.calls.length := by
    decide +kernel
  obtain ⟨calls, recorded, -⟩ := adds_after created drawnTooOften (.draw "o" "t")
  change (after linedScene _).host.device.calls = (after linedScene _).host.device.calls ++ _
    at recorded
  rw [recorded, List.drop_left] at drawn
  obtain ⟨n, meant, same⟩ := every drawnTooOften (.draw "o" "t") calls recorded _ drawn .instances
    (-2147483648) (by simp [DeviceCall.numbers])
  rw [instances_drawnTooOften] at meant
  cases meant
  exact absurd same (by decide)

end Headless

end SpriteRenderer
