import SpriteRenderer.Context

/-! # What a refusal leaves

A call of the library that fails has checked all it checks before its first request to the
device. -/

namespace SpriteRenderer

/-! ## Computations that fail at once or not at all -/

namespace Attempt

variable {σ ε α β : Type}

/-- The computation never fails. -/
def Succeeds (x : Attempt σ ε α) : Prop := ∀ s, ∃ a s', x.run s = (.ok a, s')

/-- A failure of the computation leaves the state as it was. -/
def Atomic (x : Attempt σ ε α) : Prop := ∀ s e s', x.run s = (.error e, s') → s' = s

namespace Succeeds

theorem pure (a : α) : Succeeds (Pure.pure a : Attempt σ ε α) := fun s => ⟨a, s, rfl⟩

theorem modify (f : σ → σ) : Succeeds (Attempt.modify f : Attempt σ ε Unit) :=
  fun s => ⟨(), f s, rfl⟩

theorem bind {x : Attempt σ ε α} {f : α → Attempt σ ε β} (hx : Succeeds x)
    (hf : ∀ a, Succeeds (f a)) : Succeeds (x >>= f) := by
  intro s
  obtain ⟨a, t, first⟩ := hx s
  obtain ⟨b, s', rest⟩ := hf a t
  exact ⟨b, s', by rw [run_bind_of_ok f first, rest]⟩

theorem atomic {x : Attempt σ ε α} (hx : Succeeds x) : Atomic x := by
  intro s e s' failed
  obtain ⟨a, t, ran⟩ := hx s
  rw [ran] at failed
  cases failed

end Succeeds

namespace Atomic

theorem ofExcept (r : Except ε α) : Atomic (Attempt.ofExcept r : Attempt σ ε α) := by
  rintro s e s' failed
  cases failed
  rfl

theorem fail (e : ε) : Atomic (Attempt.fail e : Attempt σ ε α) := ofExcept _

/-- What follows a computation that may fail must not fail itself. -/
theorem bind {x : Attempt σ ε α} {f : α → Attempt σ ε β} (hx : Atomic x)
    (hf : ∀ a, Succeeds (f a)) : Atomic (x >>= f) := by
  intro s e s' failed
  rw [run_bind] at failed
  cases hr : x.run s with
  | mk r t =>
      rw [hr] at failed
      cases r with
      | error e =>
          cases failed
          exact hx s _ _ hr
      | ok a =>
          obtain ⟨b, u, ran⟩ := hf a t
          exact nomatch ran.symm.trans failed

end Atomic

end Attempt

/-! ## Calls of the library -/

section

variable {δ ℓ : Type} [Device δ ℓ]

open Attempt

theorem Action.perform_succeeds (cs : List (Command ℓ)) :
    (Action.perform cs : Action δ Unit).Succeeds := .modify _

theorem DataBuffer.setData_atomic (b : DataBuffer) (bytes : List UInt8) :
    (b.setData bytes : Action δ DataBuffer).Atomic := by
  unfold DataBuffer.setData
  split
  · exact .fail _
  · exact Succeeds.atomic (.bind (Action.perform_succeeds _) fun _ => .pure _)

theorem SpriteBuffer.repack_atomic (b : SpriteBuffer) (sprites : List Sprite) :
    (b.repack sprites : Action δ SpriteBuffer).Atomic := by
  unfold SpriteBuffer.repack
  split
  · exact .fail _
  · exact Succeeds.atomic (.bind (Action.perform_succeeds _) fun _ => .pure _)

namespace RenderTarget

theorem blitTo_atomic (t destination : RenderTarget) (x y : Int32) :
    (t.blitTo destination x y : Action δ Unit).Atomic := by
  unfold blitTo
  split
  · exact .fail _
  · exact Succeeds.atomic (.bind (fun h => ⟨h.window, h, rfl⟩) fun _ => Action.perform_succeeds _)

theorem readPixels_atomic (t : RenderTarget) : (t.readPixels : Action δ Image).Atomic := by
  cases single : t.isMultisampled with
  | true =>
      rw [readPixels, if_pos single]
      exact .fail _
  | false => exact Succeeds.atomic fun h => ⟨_, _, run_readPixels single h⟩

/-- Storage is refused only by a device that finds a framebuffer incomplete. -/
theorem allocate_succeeds
    (complete : ∀ (d : δ) target, (Device.framebufferStatus d target).1 = Gl.framebufferComplete)
    (t : RenderTarget) : (t.allocate : Action δ Unit).Succeeds := by
  cases t with
  | primary => exact .pure ()
  | offscreen t =>
      intro h
      let bound := h.performAll
        (.bindFramebuffer Gl.framebuffer t.framebuffer :: t.attachments.storageCommands t.size)
      let asked : Host δ :=
        { bound with device := (Device.framebufferStatus bound.device Gl.framebuffer).2 }
      have ran : (allocate (.offscreen t) : Action δ Unit).run h =
          Attempt.run (if (Device.framebufferStatus bound.device Gl.framebuffer).1 =
            Gl.framebufferComplete then pure () else Attempt.fail _)
            (asked.performAll [.bindFramebuffer Gl.framebuffer none]) := rfl
      rw [if_pos (complete bound.device Gl.framebuffer)] at ran
      exact ⟨(), _, ran⟩

end RenderTarget

namespace Operation

theorem setAttribute_atomic (op : Operation ℓ) (c : Channel) (data : DataBuffer)
    (offset slot : Nat) :
    (op.setAttribute c data offset slot : Action δ (Operation ℓ)).Atomic :=
  .bind (.ofExcept _) fun _ => .bind (Action.perform_succeeds _) fun _ => .pure _

theorem setSprite_atomic (op : Operation ℓ) (sprites : SpriteBuffer) (id : Nat) :
    (op.setSprite sprites id : Action δ (Operation ℓ)).Atomic := by
  unfold setSprite
  split
  · exact .fail _
  · exact Succeeds.atomic (.bind (Action.perform_succeeds _) fun _ => .pure _)

end Operation

/-- Templates are checked before the device is set up. -/
theorem Context.create_atomic (config : RendererConfig) :
    (Context.create config : Action δ Context).Atomic :=
  .bind (.ofExcept _) fun _ => .bind (Action.perform_succeeds _) fun _ => .pure _

end

end SpriteRenderer
