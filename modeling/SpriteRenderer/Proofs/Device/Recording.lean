import SpriteRenderer.Device.Headless

/-! # Recording

What the headless device records of a request, and which handles it gives out and takes back. -/

namespace SpriteRenderer

/-- A device object. Handles are given to objects of all kinds alike. -/
structure Object where
  kind : ObjectKind
  handle : Handle
deriving DecidableEq, Repr

namespace Command

variable {ℓ : Type}

def deleted? : Command ℓ → Option Object
  | delete kind handle => some ⟨kind, handle⟩
  | _ => none

end Command

namespace Headless

/-- Apart from the records of objects, a command that deletes none changes only what is bound. -/
theorem effect_of_keeps {d : Headless} {c : Command String} (keeps : c.deleted? = none) :
    (d.effect c).calls = d.calls ∧ (d.effect c).lastHandle = d.lastHandle ∧
      (d.effect c).live = d.live := by
  cases c with
  | delete kind object => cases keeps
  | bindBuffer target b => cases b <;> exact ⟨rfl, rfl, rfl⟩
  | bufferData target bytes usage =>
      simp only [effect, store]; split <;> exact ⟨rfl, rfl, rfl⟩
  | shaderSource shader source =>
      simp only [effect, updateShader]; split <;> exact ⟨rfl, rfl, rfl⟩
  | compileShader shader =>
      simp only [effect, compile, updateShader]; split <;> exact ⟨rfl, rfl, rfl⟩
  | attachShader program shader =>
      simp only [effect, updateProgram]; split <;> exact ⟨rfl, rfl, rfl⟩
  | detachShader program shader =>
      simp only [effect, updateProgram]; split <;> exact ⟨rfl, rfl, rfl⟩
  | linkProgram program =>
      simp only [effect, link, updateProgram]; split <;> exact ⟨rfl, rfl, rfl⟩
  | bindFramebuffer target f =>
      simp only [effect, bindFramebuffer]
      split
      · exact ⟨rfl, rfl, rfl⟩
      · split <;> exact ⟨rfl, rfl, rfl⟩
  | blitFramebuffer _ _ mask => simp only [effect, blit]; split <;> exact ⟨rfl, rfl, rfl⟩
  | clear mask => simp only [effect, clear]; split <;> exact ⟨rfl, rfl, rfl⟩
  | _ => exact ⟨rfl, rfl, rfl⟩

/-- No effect of a command undoes a record or gives out a handle. -/
theorem calls_lastHandle_effect (d : Headless) (c : Command String) :
    (d.effect c).calls = d.calls ∧ (d.effect c).lastHandle = d.lastHandle := by
  cases keeps : c.deleted? with
  | none =>
      obtain ⟨calls, lastHandle, -⟩ := effect_of_keeps (d := d) keeps
      exact ⟨calls, lastHandle⟩
  | some object =>
      cases c with
      | delete kind handle => cases kind <;> exact ⟨rfl, rfl⟩
      | _ => cases keeps

/-- A creation is refused and leaves no record, or gives out the next handle and is recorded. -/
theorem create_cases (d : Headless) (o : NewObject) :
    (∃ e, (d.create o).1 = .error e ∧ (d.create o).2.calls = d.calls ∧
      (d.create o).2.lastHandle = d.lastHandle) ∨
    ((d.create o).1 = .ok (d.lastHandle + 1) ∧
      (d.create o).2.calls = d.calls ++ [.created o (d.lastHandle + 1)] ∧
      (d.create o).2.lastHandle = d.lastHandle + 1) := by
  unfold create
  split
  · exact .inl ⟨_, rfl, rfl, rfl⟩
  · cases o <;> exact .inr ⟨rfl, rfl, rfl⟩

theorem live_create_of_ok {d : Headless} {o : NewObject} {h : Handle}
    (made : (d.create o).1 = .ok h) : (d.create o).2.live = h :: d.live := by
  unfold create at made ⊢
  split at made
  · cases made
  · cases made
    cases o <;> rfl

theorem live_create_of_error {d : Headless} {o : NewObject} {e : RenderError}
    (refused : (d.create o).1 = .error e) : (d.create o).2.live = d.live := by
  unfold create at refused ⊢
  split at refused
  · rfl
  · cases refused

end Headless

namespace Host

theorem calls_performAll (h : Host Headless) (cs : List (Command String)) :
    (h.performAll cs).device.calls = h.device.calls ++ cs.map .performed := by
  induction cs generalizing h with
  | nil => simp
  | cons c cs ih =>
      have first : (h.perform c).device.calls = h.device.calls ++ [.performed c] :=
        congrArg (· ++ [DeviceCall.performed c]) (h.device.calls_lastHandle_effect c).1
      rw [performAll_cons, ih, first]
      simp

theorem lastHandle_performAll (h : Host Headless) (cs : List (Command String)) :
    (h.performAll cs).device.lastHandle = h.device.lastHandle := by
  induction cs generalizing h with
  | nil => rfl
  | cons c cs ih =>
      rw [performAll_cons, ih]
      exact (h.device.calls_lastHandle_effect c).2

end Host

end SpriteRenderer
