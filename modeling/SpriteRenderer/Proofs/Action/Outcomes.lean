import SpriteRenderer.Proofs.Action.Refusal

/-! # Outcomes of computations

What holds when a computation has ended with a value, and what holds when it has failed. -/

namespace SpriteRenderer

namespace Attempt

/-! ## Errors -/

section

variable {σ ε α β : Type} {E : ε → Prop}

/-- Every error of the computation is of a kind. -/
def Refuses (E : ε → Prop) (x : Attempt σ ε α) : Prop :=
  ∀ s e s', x.run s = (.error e, s') → E e

theorem Succeeds.refuses {x : Attempt σ ε α} (hx : Succeeds x) : Refuses E x := by
  intro s e s' failed
  obtain ⟨a, t, ran⟩ := hx s
  rw [ran] at failed
  cases failed

namespace Refuses

theorem ofExcept {r : Except ε α} (h : ∀ e, r = .error e → E e) :
    Refuses E (Attempt.ofExcept r : Attempt σ ε α) := by
  rintro s e s' failed
  cases failed
  exact h e rfl

theorem bind {x : Attempt σ ε α} {f : α → Attempt σ ε β} (hx : Refuses E x)
    (hf : ∀ a, Refuses E (f a)) : Refuses E (x >>= f) := by
  intro s e s' failed
  rw [run_bind] at failed
  cases hr : x.run s with
  | mk r t =>
      rw [hr] at failed
      cases r with
      | ok a => exact hf a t e s' failed
      | error e =>
          cases failed
          exact hx s _ _ hr

theorem onFailure {x : Attempt σ ε α} {f : σ → σ} (hx : Refuses E x) :
    Refuses E (x.onFailure f) := by
  intro s e s' failed
  rw [run_onFailure] at failed
  cases hr : x.run s with
  | mk r t =>
      rw [hr] at failed
      cases r with
      | ok a => cases failed
      | error e =>
          cases failed
          exact hx s _ _ hr

end Refuses

end

/-! ## Values and errors -/

variable {σ ε α β : Type} {P : σ → Prop} {S : α → σ → Prop} {T : β → σ → Prop}
  {E : ε → σ → Prop}

/-- From a state of the precondition the computation ends with a value and a state of the first
postcondition, or with an error and a state of the second one. -/
def Ends (P : σ → Prop) (x : Attempt σ ε α) (S : α → σ → Prop) (E : ε → σ → Prop) : Prop :=
  ∀ s, P s → match x.run s with
    | (.ok a, s') => S a s'
    | (.error e, s') => E e s'

namespace Ends

theorem pure {a : α} (h : ∀ s, P s → S a s) : Ends P (Pure.pure a : Attempt σ ε α) S E := h

/-- What holds of the state at the end in either case. -/
theorem of_run {x : Attempt σ ε α} {Q : σ → Prop} (h : ∀ s, P s → Q (x.run s).2) :
    Ends P x (fun _ => Q) fun _ => Q := by
  intro s hs
  have ended := h s hs
  cases hr : x.run s with
  | mk r s' =>
      rw [hr] at ended
      cases r <;> exact ended

/-- An error of either computation is an error of both. -/
theorem bind {x : Attempt σ ε α} {f : α → Attempt σ ε β} (hx : Ends P x S E)
    (hf : ∀ a, Ends (S a) (f a) T E) : Ends P (x >>= f) T E := by
  intro s hs
  have first := hx s hs
  rw [run_bind]
  cases hr : x.run s with
  | mk r s' =>
      rw [hr] at first
      cases r with
      | ok a => exact hf a s' first
      | error e => exact first

theorem onFailure {E' : ε → σ → Prop} {x : Attempt σ ε α} {f : σ → σ} (hx : Ends P x S E)
    (undone : ∀ e s, E e s → E' e (f s)) : Ends P (x.onFailure f) S E' := by
  intro s hs
  have first := hx s hs
  rw [run_onFailure]
  cases hr : x.run s with
  | mk r s' =>
      rw [hr] at first
      cases r with
      | ok a => exact first
      | error e => exact undone e s' first

end Ends

end Attempt

namespace Action

variable {δ ℓ α : Type} [Device δ ℓ] {P : Host δ → Prop} {S : α → Host δ → Prop}
  {E : RenderError → Host δ → Prop}

theorem orElsePerform_ends {E' : RenderError → Host δ → Prop} {x : Action δ α}
    {cs : List (Command ℓ)} (hx : x.Ends P S E)
    (undone : ∀ e s, E e s → E' e (s.performAll cs)) : (x.orElsePerform cs).Ends P S E' :=
  .onFailure hx undone

end Action

end SpriteRenderer
