import SpriteRenderer.Proofs.Action.Footprint
import SpriteRenderer.Proofs.Script.Transition

/-! # Footprints of steps

Which facilities of the device a step uses is known from the step alone. -/

namespace SpriteRenderer

namespace Step

/-- The facilities that the step uses, if it is not refused. -/
def facilities : Step → List Facility
  | finish .. | link .. | freeProcedure .. => [.shaders]
  | newData .. | setData .. | freeData .. => [.buffers]
  | newBuffer .. | repack .. | freeBuffer .. => [.buffers, .vertexArrays]
  | newTarget .. | resize .. | freeTarget .. => [.framebuffers, .storage]
  | bind .. | read .. => [.framebuffers]
  | clear .. | blit .. => [.framebuffers, .painting]
  | newOperation .. | setAttribute .. | setSprite .. | freeOperation .. => [.vertexArrays, .buffers]
  | draw .. => [.framebuffers, .settings, .uniforms, .vertexArrays, .painting]
  | _ => []

end Step

namespace Script.Transition

variable {δ ℓ : Type} [Device δ ℓ] {P : Host δ → Prop}

/-- What does not concern the facilities of a step, nor the window, survives the step. -/
theorem preserves {s : Scene δ ℓ} {step : Step} {out : Except StepError Answer × Scene δ ℓ}
    (t : Transition s step out) (survives : Host.Survives step.facilities P)
    (window : ∀ (h : Host δ) size, P h → P { h with window := size }) (holds : P s.host) :
    P out.2.host := by
  cases t with
  | finish found ran | link found ran =>
      exact (Procedure.ofBuilder_confined _ P survives).of_run ran holds
  | freeProcedure found => exact Procedure.free_confined _ P survives _ holds
  | newData ran => exact (DataBuffer.create_confined _ P survives).of_run ran holds
  | setData found ran => exact (DataBuffer.setData_confined _ _ P survives).of_run ran holds
  | freeData found => exact DataBuffer.free_confined _ P survives _ holds
  | addSpriteRefused e => exact survives.write _ _ holds
  | addSprite read found => exact survives.write _ _ holds
  | newBuffer found ran => exact (SpriteBuffer.create_confined _ _ P survives).of_run ran holds
  | repack found collected ran =>
      exact (SpriteBuffer.repack_confined _ _ P survives).of_run ran holds
  | freeBuffer found => exact SpriteBuffer.free_confined _ P survives _ holds
  | newTarget ran => exact (RenderTarget.create_confined _ _ _ P survives).of_run ran holds
  | resize found resized ran => exact (RenderTarget.allocate_confined _ P survives).of_run ran holds
  | bind found => exact RenderTarget.bind_confined _ P survives _ holds
  | clear found => exact RenderTarget.clear_confined _ _ _ _ P survives _ holds
  | blit found placed ran =>
      exact (RenderTarget.blitTo_confined _ _ _ _ P survives).of_run ran holds
  | read found ran => exact (RenderTarget.readPixels_confined _ P survives).of_run ran holds
  | freeTarget found => exact RenderTarget.free_confined _ P survives _ holds
  | setWindow size => exact window _ size holds
  | newOperation found ran => exact (Operation.create_confined _ P survives).of_run ran holds
  | setAttribute passed fed found ran =>
      exact (Operation.setAttribute_confined _ _ _ _ _ P survives).of_run ran holds
  | setSprite packed found ran =>
      exact (Operation.setSprite_confined _ _ _ P survives).of_run ran holds
  | draw aimed found ran => exact (Operation.drawTo_confined _ _ P survives).of_run ran holds
  | freeOperation found => exact Operation.free_confined _ P survives _ holds
  | _ => exact holds

end Script.Transition

end SpriteRenderer
