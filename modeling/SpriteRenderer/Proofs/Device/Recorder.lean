import SpriteRenderer.Proofs.Action.Footprint
import SpriteRenderer.Proofs.Device.Recording

/-! # Devices that record

A device that records every call, and gives no object the handle of another one, may otherwise do
as it likes: refuse creations, find framebuffers incomplete, fail to compile. -/

namespace SpriteRenderer

/-- A device that keeps a record. -/
class Recorder (δ : Type) [Device δ String] where
  calls : δ → List DeviceCall
  /-- The handle of the object is given to no other object of its kind. -/
  Taken : δ → Object → Prop
  calls_perform (d : δ) (c : Command String) :
    calls (Device.perform d c) = calls d ++ [.performed c]
  /-- Only what is deleted gives its handle up. -/
  taken_perform (d : δ) (c : Command String) (o : Object) :
    Taken d o → c.deleted? ≠ some o → Taken (Device.perform d c) o
  create (d : δ) (o : NewObject) :
    (∃ e, (Device.create d o).1 = .error e ∧ calls (Device.create d o).2 = calls d) ∨
    ∃ h, (Device.create d o).1 = .ok h ∧ calls (Device.create d o).2 = calls d ++ [.created o h] ∧
      ¬ Taken d ⟨o.kind, h⟩ ∧ Taken (Device.create d o).2 ⟨o.kind, h⟩
  taken_create (d : δ) (o : NewObject) (p : Object) :
    Taken d p → Taken (Device.create d o).2 p
  locate (d : δ) (program : Handle) (name : String) :
    calls (Device.locate d program name).2 = calls d ∧
      ∀ o, Taken d o → Taken (Device.locate d program name).2 o
  framebufferStatus (d : δ) (target : UInt32) :
    calls (Device.framebufferStatus d target).2 = calls d ∧
      ∀ o, Taken d o → Taken (Device.framebufferStatus d target).2 o
  readPixels (d : δ) (area : Area) (bytes : List UInt8) :
    calls (Device.readPixels d area bytes).2 = calls d ++ [.pixelsRead area] ∧
      ∀ o, Taken d o → Taken (Device.readPixels d area bytes).2 o

/-- The headless device gives no handle twice. -/
instance : Recorder Headless where
  calls := Headless.calls
  Taken d o := o.handle ≤ d.lastHandle
  calls_perform d c := congrArg (· ++ [DeviceCall.performed c]) (d.calls_lastHandle_effect c).1
  taken_perform d c o taken _ :=
    Nat.le_trans taken (Nat.le_of_eq (d.calls_lastHandle_effect c).2.symm)
  create d o := by
    rcases d.create_cases o with ⟨e, refused, calls, -⟩ | ⟨made, calls, lastHandle⟩
    · exact .inl ⟨e, refused, calls⟩
    · exact .inr ⟨d.lastHandle + 1, made, calls, Nat.not_succ_le_self _,
        Nat.le_of_eq lastHandle.symm⟩
  taken_create d o _ taken := by
    rcases d.create_cases o with ⟨-, -, -, lastHandle⟩ | ⟨-, -, lastHandle⟩
    · exact Nat.le_trans taken (Nat.le_of_eq lastHandle.symm)
    · exact Nat.le_trans taken (lastHandle ▸ Nat.le_succ _)
  locate _ _ _ := ⟨rfl, fun _ => id⟩
  framebufferStatus _ _ := ⟨rfl, fun _ => id⟩
  readPixels _ _ _ := ⟨rfl, fun _ => id⟩

namespace Host

variable {δ : Type} [Device δ String] [Recorder δ]

def calls (h : Host δ) : List DeviceCall := Recorder.calls h.device

theorem calls_perform (h : Host δ) (c : Command String) :
    (h.perform c).calls = h.calls ++ [.performed c] :=
  Recorder.calls_perform h.device c

theorem recorded_performAll (h : Host δ) (cs : List (Command String)) :
    (h.performAll cs).calls = h.calls ++ cs.map .performed := by
  induction cs generalizing h with
  | nil => simp
  | cons c cs ih =>
      rw [performAll_cons, ih, calls_perform, List.append_assoc]
      rfl

/-- Since the first host only calls of a kind have been recorded. -/
def Adds (Q : DeviceCall → Prop) (h₀ h : Host δ) : Prop :=
  ∃ cs, h.calls = h₀.calls ++ cs ∧ ∀ c ∈ cs, Q c

namespace Adds

variable {Q : DeviceCall → Prop} {h₀ h : Host δ}

theorem refl (h : Host δ) : Adds Q h h := ⟨[], by simp, by simp⟩

theorem append (added : Adds Q h₀ h) {h' : Host δ} {cs : List DeviceCall}
    (calls : h'.calls = h.calls ++ cs) (kind : ∀ c ∈ cs, Q c) : Adds Q h₀ h' := by
  obtain ⟨before, first, old⟩ := added
  refine ⟨before ++ cs, by rw [calls, first, List.append_assoc], ?_⟩
  rw [List.forall_mem_append]
  exact ⟨old, kind⟩

theorem of_calls (added : Adds Q h₀ h) {h' : Host δ} (calls : h'.calls = h.calls) :
    Adds Q h₀ h' := by
  obtain ⟨cs, first, old⟩ := added
  exact ⟨cs, calls.trans first, old⟩

theorem performAll (added : Adds Q h₀ h) {cs : List (Command String)}
    (kind : ∀ c ∈ cs, Q (.performed c)) : Adds Q h₀ (h.performAll cs) := by
  apply added.append (h.recorded_performAll cs)
  simpa using kind

theorem create (added : Adds Q h₀ h) {o : NewObject} (kind : ∀ handle, Q (.created o handle)) :
    Adds Q h₀ { h with device := (Device.create h.device o).2 } := by
  rcases Recorder.create h.device o with ⟨-, -, calls⟩ | ⟨handle, -, calls, -⟩
  · exact added.of_calls calls
  · exact added.append calls (by simpa using kind handle)

/-- Facilities whose commands are of the kind add calls of the kind. -/
theorem survives {F : List Facility} (performed : ∀ c, c.facility ∈ F → Q (.performed c))
    (created : ∀ o handle, Q (.created o handle)) (read : ∀ area, Q (.pixelsRead area)) :
    Survives F (Adds Q h₀) where
  perform h c kind added := by
    change Adds Q h₀ (h.performAll [c])
    exact added.performAll (by simpa using performed c kind)
  create h o _ added := added.create (created o)
  locate h program name added := added.of_calls (Recorder.locate h.device program name).1
  framebufferStatus h target added :=
    added.of_calls (Recorder.framebufferStatus h.device target).1
  readPixels h area bytes added :=
    added.append (Recorder.readPixels h.device area bytes).1 (by simpa using read area)
  write h journal added := added.of_calls rfl

end Adds

end Host

end SpriteRenderer
