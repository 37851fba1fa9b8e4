import SpriteRenderer.Context

/-! # Footprints of actions

The facilities of a device that an action uses. What holds of a host and does not concern
these facilities survives the action, whether it fails or not. -/

namespace SpriteRenderer

/-! ## Properties that survive a computation -/

namespace Attempt

variable {σ ε α β : Type} {P : σ → Prop}

/-- The property survives the computation, whether it fails or not. -/
def Preserves (P : σ → Prop) (x : Attempt σ ε α) : Prop := ∀ s, P s → P (x.run s).2

namespace Preserves

theorem pure (a : α) : Preserves P (Pure.pure a : Attempt σ ε α) := fun _ h => h

theorem ofExcept (r : Except ε α) : Preserves P (Attempt.ofExcept r) := fun _ h => h

theorem fail (e : ε) : Preserves P (Attempt.fail e : Attempt σ ε α) := fun _ h => h

theorem read (f : σ → α) : Preserves P (Attempt.read f : Attempt σ ε α) := fun _ h => h

theorem modify {f : σ → σ} (hf : ∀ s, P s → P (f s)) :
    Preserves P (Attempt.modify f : Attempt σ ε Unit) :=
  hf

theorem bind {x : Attempt σ ε α} {f : α → Attempt σ ε β} (hx : Preserves P x)
    (hf : ∀ a, Preserves P (f a)) : Preserves P (x >>= f) := by
  intro s h
  have h' := hx s h
  rw [run_bind]
  cases hr : x.run s with
  | mk r s' =>
      rw [hr] at h'
      cases r with
      | ok a => exact hf a s' h'
      | error e => exact h'

theorem onFailure {x : Attempt σ ε α} {f : σ → σ} (hx : Preserves P x)
    (hf : ∀ s, P s → P (f s)) : Preserves P (x.onFailure f) := by
  intro s h
  have h' := hx s h
  rw [run_onFailure]
  cases hr : x.run s with
  | mk r s' =>
      rw [hr] at h'
      cases r with
      | ok a => exact h'
      | error e => exact hf s' h'

theorem of_run {x : Attempt σ ε α} (hx : Preserves P x) {s s' : σ} {r : Except ε α}
    (ran : x.run s = (r, s')) (h : P s) : P s' := by
  have kept := hx s h
  rwa [ran] at kept

end Preserves

end Attempt

/-! ## Facilities -/

/-- What a command is about. Drawing binds framebuffers, but what they are made of is storage. -/
inductive Facility where
  | buffers | vertexArrays | shaders | uniforms | framebuffers | storage | painting | settings
deriving DecidableEq, Repr

namespace ObjectKind

@[simp] def facility : ObjectKind → Facility
  | buffer => .buffers
  | vertexArray => .vertexArrays
  | shader | program => .shaders
  | framebuffer | texture | renderbuffer => .storage

end ObjectKind

namespace Command

variable {ℓ : Type}

@[simp] def facility : Command ℓ → Facility
  | delete kind _ => kind.facility
  | bindBuffer .. | bufferData .. => .buffers
  | bindVertexArray .. | enableVertexAttribArray .. | vertexAttribPointerFloat ..
  | vertexAttribPointerInt .. | vertexAttribDivisor .. => .vertexArrays
  | shaderSource .. | compileShader .. | attachShader .. | detachShader .. | linkProgram .. =>
    .shaders
  | useProgram .. | uniform .. => .uniforms
  | bindFramebuffer .. => .framebuffers
  | framebufferTexture2D .. | framebufferRenderbuffer .. | bindTexture .. | texStorage2D ..
  | texParameter .. | bindRenderbuffer .. | renderbufferStorageMultisample .. => .storage
  | blitFramebuffer .. | clearColor .. | clearDepth .. | clear .. | drawElementsInstanced .. =>
    .painting
  | viewport .. | enable .. | disable .. | depthFunc .. | blendFunc .. => .settings

end Command

namespace Host

variable {δ ℓ : Type} [Device δ ℓ]

/-- The property of a host survives every use of some facilities, and every question. -/
structure Survives (F : List Facility) (P : Host δ → Prop) : Prop where
  perform : ∀ h (c : Command ℓ), c.facility ∈ F → P h → P (h.perform c)
  create : ∀ h o, o.kind.facility ∈ F → P h →
    P { h with device := (Device.create h.device o).2 }
  locate : ∀ h program name, P h →
    P { h with device := (Device.locate h.device program name).2 }
  framebufferStatus : ∀ h target, P h →
    P { h with device := (Device.framebufferStatus h.device target).2 }
  readPixels : ∀ h area bytes, P h →
    P { h with device := (Device.readPixels h.device area bytes).2 }
  write : ∀ h journal, P h → P { h with journal }

namespace Survives

variable {F G : List Facility} {P : Host δ → Prop}

theorem mono (hP : Survives G P) (hFG : F ⊆ G) : Survives F P where
  perform h c hc := hP.perform h c (hFG hc)
  create h o ho := hP.create h o (hFG ho)
  locate := hP.locate
  framebufferStatus := hP.framebufferStatus
  readPixels := hP.readPixels
  write := hP.write

theorem performAll (hP : Survives F P) {cs : List (Command ℓ)}
    (hcs : ∀ c ∈ cs, c.facility ∈ F) (h : Host δ) (holds : P h) : P (h.performAll cs) := by
  induction cs generalizing h with
  | nil => exact holds
  | cons c cs ih =>
      rw [performAll_cons]
      exact ih (fun d hd => hcs d (List.mem_cons_of_mem c hd)) _
        (hP.perform h c (hcs c List.mem_cons_self) holds)

end Survives

end Host

namespace Action

open Attempt

variable {δ ℓ α β : Type} [Device δ ℓ] {F G : List Facility}

/-- An action uses no facilities but these. -/
def Confined (F : List Facility) (x : Action δ α) : Prop :=
  ∀ P : Host δ → Prop, Host.Survives F P → Preserves P x

namespace Confined

theorem pure (a : α) : Confined F (Pure.pure a : Action δ α) := fun _ _ => .pure a

theorem ofExcept (r : Except RenderError α) : Confined F (Attempt.ofExcept r : Action δ α) :=
  fun _ _ => .ofExcept r

theorem fail (e : RenderError) : Confined F (Attempt.fail e : Action δ α) := fun _ _ => .fail e

theorem window : Confined F (Action.window : Action δ Size) := fun _ _ => .read _

theorem write (r : LogRecord) : Confined F (Action.write r : Action δ Unit) :=
  fun _ hP h => hP.write h _

theorem bind {x : Action δ α} {f : α → Action δ β} (hx : Confined F x)
    (hf : ∀ a, Confined F (f a)) : Confined F (x >>= f) :=
  fun P hP => .bind (hx P hP) fun a => hf a P hP

theorem perform {cs : List (Command ℓ)} (hcs : ∀ c ∈ cs, c.facility ∈ F) :
    Confined F (Action.perform cs : Action δ Unit) :=
  fun _ hP => .modify (hP.performAll hcs)

theorem create {o : NewObject} (ho : o.kind.facility ∈ F) :
    Confined F (Action.create o : Action δ Handle) :=
  fun _ hP h => hP.create h o ho

theorem orElsePerform {x : Action δ α} {cs : List (Command ℓ)} (hx : Confined F x)
    (hcs : ∀ c ∈ cs, c.facility ∈ F) : Confined F (x.orElsePerform cs) :=
  fun P hP => .onFailure (hx P hP) (hP.performAll hcs)

/-- A question that does not change the device. -/
theorem ask (f : δ → α) : Confined F (Action.query fun d => (f d, d) : Action δ α) :=
  fun _ _ _ holds => holds

theorem locate (program : Handle) (name : String) :
    Confined F (Action.query fun d => Device.locate d program name : Action δ (Option ℓ)) :=
  fun _ hP h => hP.locate h program name

theorem framebufferStatus (target : UInt32) :
    Confined F (Action.query fun d => Device.framebufferStatus d target : Action δ UInt32) :=
  fun _ hP h => hP.framebufferStatus h target

theorem readPixels (area : Area) (bytes : List UInt8) :
    Confined F (Action.query fun d => Device.readPixels d area bytes : Action δ (List UInt8)) :=
  fun _ hP h => hP.readPixels h area bytes

end Confined

end Action

/-! ## Footprints of the library -/

open SpriteRenderer.Action (Confined)

variable {δ ℓ : Type} [Device δ ℓ]

namespace Procedure

theorem compile_confined (stage : ShaderStage) (source : String) :
    Confined [.shaders] (compile stage source : Action δ Handle) := by
  refine .bind (.create (List.mem_singleton.mpr rfl)) fun shader =>
    .bind (.perform (by simp [Command.facility])) fun _ => .bind (.ask _) fun compiled => ?_
  split
  · exact .pure shader
  · exact .bind (.ask _) fun log => .bind (.write _) fun _ =>
      .bind (.perform (by simp [Command.facility, ObjectKind.facility])) fun _ => .fail _

theorem locateAll_confined (program : Handle) (cs : List Channel) :
    Confined [.shaders] (locateAll program cs : Action δ (List (UniformSlot ℓ))) := by
  induction cs with
  | nil => exact .pure []
  | cons c cs ih => exact .bind (.locate _ _) fun _ => .bind ih fun _ => .pure _

theorem link_confined (shader : ComposedShader) :
    Confined [.shaders] (link shader : Action δ (Procedure ℓ)) := by
  refine .bind (compile_confined _ _) fun vertex =>
    .bind (.orElsePerform (compile_confined _ _) ?_) fun fragment =>
    .bind (.orElsePerform (.create (by decide)) ?_) fun program =>
    .bind (.perform ?_) fun _ => .bind (.ask _) fun linked => .bind (.perform ?_) fun _ => ?_
  rotate_right
  · split
    · exact .bind (.locate _ _) fun _ => .bind (locateAll_confined _ _) fun _ => .pure _
    · exact .bind (.ask _) fun log => .bind (.write _) fun _ =>
        .bind (.perform (by simp [Command.facility, ObjectKind.facility])) fun _ => .fail _
  all_goals simp [Command.facility, ObjectKind.facility]

theorem ofBuilder_confined (b : ProcedureBuilder) :
    Confined [.shaders] (ofBuilder b : Action δ (Procedure ℓ)) :=
  .bind (.ofExcept _) fun shader => link_confined shader

theorem free_confined (p : Procedure ℓ) : Confined [.shaders] (p.free : Action δ Unit) :=
  .perform (by simp [Command.facility, ObjectKind.facility])

end Procedure

namespace DataBuffer

theorem create_confined (usage : BufferUsage) :
    Confined [.buffers] (create usage : Action δ DataBuffer) :=
  .bind (.create (by decide)) fun _ => .pure _

theorem setData_confined (b : DataBuffer) (bytes : List UInt8) :
    Confined [.buffers] (b.setData bytes : Action δ DataBuffer) := by
  unfold setData
  split
  · exact .fail _
  · exact .bind (.perform (by simp)) fun _ => .pure _

theorem free_confined (b : DataBuffer) : Confined [.buffers] (b.free : Action δ Unit) :=
  .perform (by simp)

end DataBuffer

namespace SpriteBuffer

/-- The index buffer is bound while no vertex array is. -/
theorem upload_confined (b : SpriteBuffer) (p : PackedSprites) :
    Confined [.buffers, .vertexArrays] (b.upload p : Action δ SpriteBuffer) :=
  .bind (.perform (by simp [uploadCommands])) fun _ => .pure _

theorem create_confined (sprites : List Sprite) (usage : BufferUsage) :
    Confined [.buffers, .vertexArrays] (create sprites usage : Action δ SpriteBuffer) :=
  .bind (.create (by decide)) fun _ =>
    .bind (.orElsePerform (.create (by decide)) (by simp)) fun _ => upload_confined _ _

theorem repack_confined (b : SpriteBuffer) (sprites : List Sprite) :
    Confined [.buffers, .vertexArrays] (b.repack sprites : Action δ SpriteBuffer) := by
  unfold repack
  split
  · exact .fail _
  · exact b.upload_confined _

theorem free_confined (b : SpriteBuffer) :
    Confined [.buffers, .vertexArrays] (b.free : Action δ Unit) :=
  .perform (by simp)

end SpriteBuffer

namespace Attachments

theorem facility_storageCommands (a : Attachments) (size : Size) :
    ∀ c ∈ (a.storageCommands size : List (Command ℓ)), c.facility ∈ [.framebuffers, .storage] := by
  cases a <;> simp [storageCommands, textureCommands, renderbufferCommands, Command.facility]

end Attachments

namespace Offscreen

theorem facility_deleteCommands (t : Offscreen) :
    ∀ c ∈ (t.deleteCommands : List (Command ℓ)), c.facility ∈ [.framebuffers, .storage] := by
  obtain ⟨framebuffer, attachments, size⟩ := t
  cases attachments <;>
    simp [deleteCommands, Attachments.deleteCommands, Command.facility, ObjectKind.facility]

theorem allocate_confined (t : Offscreen) :
    Confined [.framebuffers, .storage] (t.allocate : Action δ Unit) := by
  refine .bind (.perform ?_) fun _ => .bind (.framebufferStatus _) fun status =>
    .bind (.perform (by simp [Command.facility])) fun _ => ?_
  · simpa [Command.facility] using t.attachments.facility_storageCommands t.size
  · split
    · exact .pure ()
    · exact .fail _

theorem createAttachments_confined (multisampled : Bool) (samples : Int32) :
    Confined [.framebuffers, .storage]
      (createAttachments multisampled samples : Action δ Attachments) := by
  unfold createAttachments
  split <;>
    exact .bind (.create (by decide)) fun color =>
      .bind (.orElsePerform (.create (by decide))
        (by simp [Command.facility, ObjectKind.facility])) fun depth => .pure _

end Offscreen

namespace RenderTarget

theorem create_confined (size : Size) (multisampled : Bool) (samples : Int32) :
    Confined [.framebuffers, .storage]
      (create size multisampled samples : Action δ RenderTarget) :=
  .bind (.create (by decide)) fun framebuffer =>
    .bind (.orElsePerform (Offscreen.createAttachments_confined _ _)
      (by simp [Command.facility, ObjectKind.facility])) fun attachments =>
    .bind (.orElsePerform (Offscreen.allocate_confined _)
      (Offscreen.facility_deleteCommands _)) fun _ => .pure _

theorem allocate_confined (t : RenderTarget) :
    Confined [.framebuffers, .storage] (t.allocate : Action δ Unit) := by
  cases t with
  | primary => exact .pure ()
  | offscreen t => exact t.allocate_confined

theorem bind_confined (t : RenderTarget) : Confined [.framebuffers] (t.bind : Action δ Unit) :=
  .perform (by simp [bindCommand, Command.facility])

theorem clear_confined (t : RenderTarget) (r g b : UInt8) :
    Confined [.framebuffers, .painting] (t.clear r g b : Action δ Unit) :=
  .perform (by simp [bindCommand, Command.facility])

theorem blitTo_confined (t destination : RenderTarget) (x y : Int32) :
    Confined [.framebuffers, .painting] (t.blitTo destination x y : Action δ Unit) := by
  unfold blitTo
  split
  · exact .fail _
  · exact .bind .window fun window => .perform (by simp [Command.facility])

theorem readPixels_confined (t : RenderTarget) :
    Confined [.framebuffers] (t.readPixels : Action δ Image) := by
  unfold readPixels
  split
  · exact .fail _
  · exact .bind .window fun window => .bind (.perform (by simp [Command.facility])) fun _ =>
      .bind (.readPixels _ _) fun bytes =>
      .bind (.perform (by simp [Command.facility])) fun _ => .ofExcept _

theorem free_confined (t : RenderTarget) :
    Confined [.framebuffers, .storage] (t.free : Action δ Unit) := by
  cases t with
  | primary => exact .pure ()
  | offscreen t => exact .perform t.facility_deleteCommands

end RenderTarget

namespace Operation

/-- What a draw sets up before it draws. -/
def preparation (op : Operation ℓ) (target : RenderTarget) (size : Size) : List (Command ℓ) :=
  [target.bindCommand, .viewport ⟨0, 0, size.width.toInt32, size.height.toInt32⟩,
    .useProgram op.procedure.program, .bindVertexArray op.vertexArray] ++
  (op.uniformCommands ++ op.screenSizeCommands size)

theorem drawCommands_eq (op : Operation ℓ) (target : RenderTarget) (size : Size)
    (first count : UInt32) :
    op.drawCommands target size first count = op.preparation target size ++
      [.drawElementsInstanced Gl.triangles count.toInt32 Gl.unsignedInt (first * 4).toInt32
        op.amount.toInt32, .bindVertexArray none] := by
  simp [drawCommands, preparation]

theorem facility_uniformCommands (op : Operation ℓ) (size : Size) :
    ∀ c ∈ op.uniformCommands ++ op.screenSizeCommands size, c.facility = .uniforms := by
  intro c hc
  rcases List.mem_append.mp hc with hc | hc
  · obtain ⟨u, -, hu⟩ := List.mem_filterMap.mp hc
    obtain ⟨location, -, hu⟩ := Option.bind_eq_some_iff.mp hu
    obtain ⟨value, -, hu⟩ := Option.bind_eq_some_iff.mp hu
    cases hu
    rfl
  · unfold screenSizeCommands at hc
    split at hc
    · rw [List.mem_singleton.mp hc]
      rfl
    · cases hc

theorem facility_preparation (op : Operation ℓ) (target : RenderTarget) (size : Size) :
    ∀ c ∈ op.preparation target size, c.facility ≠ .painting := by
  intro c hc
  rcases List.mem_append.mp hc with hc | hc
  · simp only [List.mem_cons, List.not_mem_nil, or_false] at hc
    rcases hc with rfl | rfl | rfl | rfl <;> simp [RenderTarget.bindCommand, Command.facility]
  · rw [op.facility_uniformCommands size c hc]
    decide

theorem create_confined (p : Procedure ℓ) :
    Confined [.vertexArrays, .buffers] (create p : Action δ (Operation ℓ)) :=
  .bind (.create (by decide)) fun _ => .pure _

theorem setAttribute_confined (op : Operation ℓ) (c : Channel) (data : DataBuffer)
    (offset slot : Nat) :
    Confined [.vertexArrays, .buffers]
      (op.setAttribute c data offset slot : Action δ (Operation ℓ)) := by
  refine .bind (.ofExcept _) fun source => .bind (.perform ?_) fun _ => .pure _
  simp only [AttributeSource.commands, AttributeSource.pointerCommand]
  split <;> simp

theorem setSprite_confined (op : Operation ℓ) (sprites : SpriteBuffer) (id : Nat) :
    Confined [.vertexArrays, .buffers] (op.setSprite sprites id : Action δ (Operation ℓ)) := by
  unfold setSprite
  split
  · exact .fail _
  · exact .bind (.perform (by simp [spriteCommands])) fun _ => .pure _

theorem drawTo_confined (op : Operation ℓ) (target : RenderTarget) :
    Confined [.framebuffers, .settings, .uniforms, .vertexArrays, .painting]
      (op.drawTo target : Action δ Unit) := by
  unfold drawTo
  split
  · exact .write _
  · split
    · exact .write _
    · refine .bind .window fun window => .perform ?_
      rw [drawCommands_eq, preparation, List.forall_mem_append, List.forall_mem_append]
      refine ⟨⟨by simp [RenderTarget.bindCommand], fun c hc => ?_⟩, by simp⟩
      rw [op.facility_uniformCommands _ c hc]
      decide

theorem free_confined (op : Operation ℓ) :
    Confined [.vertexArrays, .buffers] (op.free : Action δ Unit) :=
  .perform (by simp)

end Operation

namespace Context

theorem facility_setupCommands (config : RendererConfig) :
    ∀ c ∈ (setupCommands config : List (Command ℓ)), c.facility ∈ [.painting, .settings] := by
  unfold setupCommands
  split <;> simp [Command.facility]

end Context

end SpriteRenderer
