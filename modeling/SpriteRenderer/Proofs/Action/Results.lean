import SpriteRenderer.Attempt

/-! # Results of computations

What is known once a computation has not failed. -/

namespace SpriteRenderer

/-! ## Results without a state -/

namespace Result

variable {ε α β : Type}

theorem bind_eq_ok {r : Except ε α} {f : α → Except ε β} {b : β} (h : r >>= f = .ok b) :
    ∃ a, r = .ok a ∧ f a = .ok b := by
  cases r with
  | error e => cases h
  | ok a => exact ⟨a, rfl, h⟩

theorem bind_eq_ok_iff {r : Except ε α} {f : α → Except ε β} {b : β} :
    r >>= f = .ok b ↔ ∃ a, r = .ok a ∧ f a = .ok b := by
  constructor
  · exact bind_eq_ok
  · intro h
    obtain ⟨a, rfl, h⟩ := h
    exact h

theorem mapError_eq_ok_iff {ε' : Type} {r : Except ε α} {f : ε → ε'} {a : α} :
    r.mapError f = .ok a ↔ r = .ok a := by
  cases r with
  | error e =>
      constructor
      · intro h
        cases h
      · intro h
        cases h
  | ok a' =>
      constructor
      · intro h
        cases h
        rfl
      · intro h
        cases h
        rfl

/-- A check that throws was passed. -/
theorem check_eq_ok {p : Prop} [Decidable p] {e : ε} {f : PUnit → Except ε β} {b : β}
    (h : (if p then throw e >>= f else f ⟨⟩) = .ok b) : ¬ p ∧ f ⟨⟩ = .ok b := by
  by_cases hp : p
  · rw [if_pos hp] at h
    cases h
  · rw [if_neg hp] at h
    exact ⟨hp, h⟩

end Result

/-! ## Values of attempts -/

namespace Attempt

variable {σ ε α β : Type} {Q : α → Prop} {R : β → Prop}

/-- What holds of the value, unless the computation fails. -/
def Yields (Q : α → Prop) (x : Attempt σ ε α) : Prop := ∀ s a s', x.run s = (.ok a, s') → Q a

namespace Yields

theorem pure {a : α} (h : Q a) : Yields Q (Pure.pure a : Attempt σ ε α) := by
  rintro s _ s' ran
  cases ran
  exact h

theorem ofExcept {r : Except ε α} (h : ∀ a, r = .ok a → Q a) :
    Yields Q (Attempt.ofExcept r : Attempt σ ε α) := by
  rintro s a s' ran
  cases ran
  exact h a rfl

theorem fail (e : ε) : Yields Q (Attempt.fail e : Attempt σ ε α) := by
  rintro s a s' ran
  cases ran

/-- The second computation starts from a value of the first. -/
theorem bind {x : Attempt σ ε α} {f : α → Attempt σ ε β} (hx : Yields Q x)
    (hf : ∀ a, Q a → Yields R (f a)) : Yields R (x >>= f) := by
  intro s b s' ran
  rw [run_bind] at ran
  cases hr : x.run s with
  | mk r t =>
      rw [hr] at ran
      cases r with
      | ok a => exact hf a (hx s a t hr) t b s' ran
      | error e => cases ran

theorem mono {Q' : α → Prop} {x : Attempt σ ε α} (hx : Yields Q x) (hQ : ∀ a, Q a → Q' a) :
    Yields Q' x :=
  fun s a s' ran => hQ a (hx s a s' ran)

theorem any (x : Attempt σ ε α) : Yields (fun _ => True) x := fun _ _ _ _ => trivial

end Yields

/-! ## Values and states -/

variable {P : σ → Prop} {S : α → σ → Prop} {T : β → σ → Prop}

/-- From a state of the precondition the computation fails, or ends with a value and a state of
the postcondition. -/
def Ensures (P : σ → Prop) (x : Attempt σ ε α) (S : α → σ → Prop) : Prop :=
  ∀ s a s', P s → x.run s = (.ok a, s') → S a s'

namespace Ensures

theorem pure {a : α} (h : ∀ s, P s → S a s) : Ensures P (Pure.pure a : Attempt σ ε α) S := by
  rintro s _ s' hs ran
  cases ran
  exact h s hs

theorem fail (e : ε) : Ensures P (Attempt.fail e : Attempt σ ε α) S := by
  rintro s a s' hs ran
  cases ran

theorem modify {f : σ → σ} {Q : σ → Prop} (h : ∀ s, P s → Q (f s)) :
    Ensures P (Attempt.modify f : Attempt σ ε Unit) fun _ => Q := by
  rintro s _ s' hs ran
  cases ran
  exact h s hs

theorem mono {P' : σ → Prop} {S' : α → σ → Prop} {x : Attempt σ ε α} (hx : Ensures P x S)
    (pre : ∀ s, P' s → P s) (post : ∀ a s, S a s → S' a s) : Ensures P' x S' :=
  fun s a s' hs ran => post a s' (hx s a s' (pre s hs) ran)

/-- A condition that the state does not matter to. -/
theorem given {p : Prop} {x : Attempt σ ε α} (hx : p → Ensures P x S) :
    Ensures (fun s => P s ∧ p) x S :=
  fun s a s' hs ran => hx hs.2 s a s' hs.1 ran

/-- The second computation starts where the first one ends. -/
theorem bind {x : Attempt σ ε α} {f : α → Attempt σ ε β} (hx : Ensures P x S)
    (hf : ∀ a, Ensures (S a) (f a) T) : Ensures P (x >>= f) T := by
  intro s b s' hs ran
  rw [run_bind] at ran
  cases hr : x.run s with
  | mk r t =>
      rw [hr] at ran
      cases r with
      | ok a => exact hf a t b s' (hx s a t hs hr) ran
      | error e => cases ran

/-- What happens after a failure does not matter. -/
theorem onFailure {x : Attempt σ ε α} {f : σ → σ} (hx : Ensures P x S) :
    Ensures P (x.onFailure f) S := by
  intro s a s' hs ran
  rw [run_onFailure] at ran
  cases hr : x.run s with
  | mk r t =>
      rw [hr] at ran
      cases r with
      | ok b =>
          cases ran
          exact hx s a s' hs hr
      | error e => cases ran

theorem any (x : Attempt σ ε α) : Ensures P x fun _ _ => True := fun _ _ _ _ _ => trivial

theorem yields {x : Attempt σ ε α} (h : Ensures (fun _ => True) x fun a _ => Q a) : Yields Q x :=
  fun s a s' ran => h s a s' trivial ran

end Ensures

theorem Yields.onFailure {x : Attempt σ ε α} {f : σ → σ} (hx : Yields Q x) :
    Yields Q (x.onFailure f) :=
  Ensures.yields (.onFailure fun s a s' _ ran => hx s a s' ran)

end Attempt

end SpriteRenderer
