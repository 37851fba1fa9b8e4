import SpriteRenderer.Proofs.Device.Recording
import SpriteRenderer.Proofs.Operation.Calls
import SpriteRenderer.Proofs.VertexArray.Replay

/-! # What calls change

A call of the library changes the vertex array of the operation that it is about, or none. -/

namespace SpriteRenderer

namespace Host

/-- What the recorded calls make of the vertex arrays. -/
def vertexState (h : Host Headless) : VertexState := .replay h.device.calls

theorem vertexState_performAll (h : Host Headless) (cs : List (Command String)) :
    (h.performAll cs).vertexState = h.vertexState.performAll cs := by
  rw [vertexState, calls_performAll, VertexState.replay_append_performed, vertexState]

/-- Nothing is bound, and of the vertex arrays that there were at most `v` is changed. -/
structure ChangesOnly (v : Option Handle) (h₀ h : Host Headless) : Prop where
  lastHandle_le : h₀.device.lastHandle ≤ h.device.lastHandle
  idle : h.vertexState.Idle
  arrays : ∀ u ≤ h₀.device.lastHandle, some u ≠ v →
    h.vertexState.arrays (some u) = h₀.vertexState.arrays (some u)

namespace ChangesOnly

variable {v : Option Handle} {h₀ h : Host Headless}

theorem refl (idle : h.vertexState.Idle) : ChangesOnly v h h :=
  ⟨Nat.le_refl _, idle, fun _ _ _ => rfl⟩

theorem trans {h' : Host Headless} (first : ChangesOnly v h₀ h) (second : ChangesOnly v h h') :
    ChangesOnly v h₀ h' where
  lastHandle_le := Nat.le_trans first.lastHandle_le second.lastHandle_le
  idle := second.idle
  arrays u hu hv := by
    rw [second.arrays u (Nat.le_trans hu first.lastHandle_le) hv, first.arrays u hu hv]

/-- Less is changed than may be. -/
theorem weaken (kept : ChangesOnly none h₀ h) (v : Option Handle) : ChangesOnly v h₀ h :=
  ⟨kept.lastHandle_le, kept.idle, fun u hu _ => kept.arrays u hu (Option.some_ne_none u)⟩

/-- What is not recorded does not matter. -/
theorem of_calls {h' : Host Headless} (kept : ChangesOnly v h₀ h)
    (calls : h'.device.calls = h.device.calls)
    (lastHandle : h'.device.lastHandle = h.device.lastHandle) : ChangesOnly v h₀ h' := by
  have same : h'.vertexState = h.vertexState := congrArg VertexState.replay calls
  apply kept.trans
  refine ⟨Nat.le_of_eq lastHandle.symm, ?_, fun u _ _ => ?_⟩
  · rw [same]
    exact kept.idle
  · rw [same]

theorem performAll (kept : ChangesOnly v h₀ h) {cs : List (Command String)}
    (idle : (h.vertexState.performAll cs).Idle)
    (arrays : ∀ u, some u ≠ v →
      (h.vertexState.performAll cs).arrays (some u) = h.vertexState.arrays (some u)) :
    ChangesOnly v h₀ (h.performAll cs) := by
  rw [← vertexState_performAll] at idle arrays
  exact kept.trans ⟨Nat.le_of_eq (h.lastHandle_performAll cs).symm, idle, fun u _ hv => arrays u hv⟩

/-- The default vertex array, which no operation has, may change as well. -/
theorem performAll_of_modify (kept : ChangesOnly v h₀ h) {cs : List (Command String)}
    {w : Option Handle} {f : VertexArrayState → VertexArrayState}
    (performed : h.vertexState.performAll cs = h.vertexState.modify w f)
    (allowed : w = none ∨ w = v) : ChangesOnly v h₀ (h.performAll cs) := by
  apply kept.performAll
  · rw [performed]
    exact kept.idle.modify w f
  · intro u hu
    have other : some u ≠ w := by
      rcases allowed with rfl | rfl
      · exact Option.some_ne_none u
      · exact hu
    rw [performed]
    exact h.vertexState.modify_arrays_of_ne other f

theorem performAll_of_eq (kept : ChangesOnly v h₀ h) {cs : List (Command String)}
    (performed : h.vertexState.performAll cs = h.vertexState) :
    ChangesOnly v h₀ (h.performAll cs) := by
  apply kept.performAll
  · rw [performed]
    exact kept.idle
  · intro u _
    rw [performed]

/-- New objects have new handles, also new vertex arrays. -/
theorem create (kept : ChangesOnly v h₀ h) (o : NewObject) :
    ChangesOnly v h₀ { h with device := (h.device.create o).2 } := by
  rcases h.device.create_cases o with ⟨e, -, calls, lastHandle⟩ | ⟨-, calls, lastHandle⟩
  · exact kept.of_calls calls lastHandle
  · have recorded : vertexState { h with device := (h.device.create o).2 } =
        h.vertexState.apply (.created o (h.device.lastHandle + 1)) := by
      simp [vertexState, VertexState.replay, calls]
    apply kept.trans
    refine ⟨Nat.le_trans (Nat.le_succ _) (Nat.le_of_eq lastHandle.symm), ?_, fun u hu _ => ?_⟩
    · rw [recorded]
      cases o <;> exact ⟨kept.idle.current, kept.idle.arrayBuffer⟩
    · have new : some u ≠ some (h.device.lastHandle + 1) := by
        intro same
        exact absurd hu (by simp [Option.some.inj same])
      rw [recorded]
      cases o with
      | vertexArray => exact h.vertexState.modify_arrays_of_ne new fun _ => {}
      | _ => rfl

/-- Facilities that vertex arrays do not depend on leave them alone. -/
theorem survives : Survives VertexState.unrelated (ChangesOnly v h₀) where
  perform h c unrelated kept := by
    change ChangesOnly v h₀ (h.performAll [c])
    exact kept.performAll_of_eq (VertexState.perform_unrelated _ unrelated)
  create h o _ kept := kept.create o
  locate _ _ _ kept := kept
  framebufferStatus _ _ kept := kept
  readPixels h area bytes kept := by
    have recorded : vertexState { h with device := (Device.readPixels h.device area bytes).2 } =
        h.vertexState.apply (.pixelsRead area) := by
      simp [vertexState, VertexState.replay, Device.readPixels, Headless.record]
    apply kept.trans
    refine ⟨Nat.le_refl _, ?_, fun u _ _ => ?_⟩
    · rw [recorded]
      exact kept.idle
    · rw [recorded]
      rfl
  write _ _ kept := kept.of_calls rfl rfl

end ChangesOnly

end Host

/-! ## Calls of the library -/

open Attempt (Preserves)
open Host (ChangesOnly)

variable {v : Option Handle} {h₀ : Host Headless} {α : Type}

private theorem preserves_create (o : NewObject) :
    Preserves (ChangesOnly v h₀) (Action.create o : Action Headless Handle) :=
  fun _ kept => kept.create o

namespace VertexState

/-- A buffer that is deleted while nothing is bound leaves the default vertex array alone. -/
theorem performAll_deleteBuffer {g : VertexState} (h : g.Idle) (b : Handle) :
    g.performAll ([.delete .buffer b] : List (Command String)) = g.modify none (·.detach b) := by
  obtain ⟨current, arrayBuffer, arrays⟩ := g
  obtain ⟨rfl, rfl⟩ := h
  rfl

/-- Nothing is bound to an operation that is freed. -/
theorem performAll_deleteVertexArray {g : VertexState} (h : g.Idle) (v : Handle) :
    g.performAll ([.delete .vertexArray v] : List (Command String)) =
      g.modify (some v) fun _ => {} := by
  obtain ⟨current, arrayBuffer, arrays⟩ := g
  obtain ⟨rfl, rfl⟩ := h
  rfl

end VertexState

theorem preserves_deleteBuffer (b : Handle) :
    Preserves (ChangesOnly v h₀) (Action.perform [.delete .buffer b] : Action Headless Unit) :=
  .modify fun _ kept =>
    kept.performAll_of_modify (VertexState.performAll_deleteBuffer kept.idle b) (.inl rfl)

namespace DataBuffer

theorem create_preserves (usage : BufferUsage) :
    Preserves (ChangesOnly v h₀) (create usage : Action Headless DataBuffer) :=
  .bind (preserves_create _) fun _ => .pure _

theorem setData_preserves (b : DataBuffer) (bytes : List UInt8) :
    Preserves (ChangesOnly v h₀) (b.setData bytes : Action Headless DataBuffer) := by
  unfold setData
  split
  · exact .fail _
  · exact .bind (.modify fun _ kept => kept.performAll_of_eq
      (VertexState.performAll_setData kept.idle _ _ _)) fun _ => .pure _

theorem free_preserves (b : DataBuffer) :
    Preserves (ChangesOnly v h₀) (b.free : Action Headless Unit) :=
  preserves_deleteBuffer b.handle

end DataBuffer

namespace SpriteBuffer

theorem upload_preserves (b : SpriteBuffer) (p : PackedSprites) :
    Preserves (ChangesOnly v h₀) (b.upload p : Action Headless SpriteBuffer) :=
  .bind (.modify fun _ kept => kept.performAll_of_modify
    (VertexState.performAll_uploadCommands kept.idle _ _ _ _) (.inl rfl)) fun _ => .pure _

theorem create_preserves (sprites : List Sprite) (usage : BufferUsage) :
    Preserves (ChangesOnly v h₀) (create sprites usage : Action Headless SpriteBuffer) :=
  .bind (preserves_create _) fun vertices =>
    .bind (.onFailure (preserves_create _) (preserves_deleteBuffer vertices)) fun _ =>
    upload_preserves _ _

theorem repack_preserves (b : SpriteBuffer) (sprites : List Sprite) :
    Preserves (ChangesOnly v h₀) (b.repack sprites : Action Headless SpriteBuffer) := by
  unfold repack
  split
  · exact .fail _
  · exact b.upload_preserves _

theorem free_preserves (b : SpriteBuffer) :
    Preserves (ChangesOnly v h₀) (b.free : Action Headless Unit) := by
  intro h kept
  exact preserves_deleteBuffer b.indices _ (preserves_deleteBuffer b.vertices _ kept)

end SpriteBuffer

namespace Operation

theorem drawTo_preserves (op : Operation String) (target : RenderTarget) :
    Preserves (ChangesOnly v h₀) (op.drawTo target : Action Headless Unit) := by
  intro h kept
  rcases op.run_drawTo target h with ⟨-, record, ran⟩ | ⟨first, count, -, -, ran⟩
  · rw [ran]
    exact kept.of_calls rfl rfl
  · rw [ran]
    exact kept.performAll_of_eq (VertexState.performAll_drawCommands kept.idle _ _ _ _ _)

end Operation

end SpriteRenderer
