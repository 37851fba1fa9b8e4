import Mathlib.Data.List.Forall2
import SpriteRenderer.Attempt

/-! # Two runs side by side

Two computations that start in corresponding states go the same way: they end with the same error,
or with values that correspond. -/

namespace SpriteRenderer

variable {σ τ ε ε' α β α' β' γ : Type}

namespace Result

/-- Two results are the same error, or values of the relation. -/
inductive Agree (Q : α → β → Prop) : Except ε α → Except ε β → Prop where
  | ok {a b} (h : Q a b) : Agree Q (.ok a) (.ok b)
  | error (e) : Agree Q (.error e) (.error e)

namespace Agree

variable {Q : α → β → Prop} {r : Except ε α} {s : Except ε β}

theorem refl (r : Except ε α) : Agree Eq r r := by
  cases r with
  | error e => exact .error e
  | ok a => exact .ok rfl

theorem mapError (h : Agree Q r s) (f : ε → ε') : Agree Q (r.mapError f) (s.mapError f) := by
  cases h with
  | ok h => exact .ok h
  | error e => exact .error (f e)

theorem map_eq (h : Agree Q r s) {f : α → γ} {g : β → γ} (same : ∀ a b, Q a b → f a = g b) :
    r.map f = s.map g := by
  cases h with
  | ok h => exact congrArg Except.ok (same _ _ h)
  | error e => rfl

end Agree

end Result

namespace Attempt

open Result (Agree)

/-- From states of the relation both computations end alike, in states of the relation. -/
def Together (P : σ → τ → Prop) (Q : α → β → Prop) (x : Attempt σ ε α) (y : Attempt τ ε β) :
    Prop :=
  ∀ s t, P s t → Agree Q (x.run s).1 (y.run t).1 ∧ P (x.run s).2 (y.run t).2

namespace Together

variable {P : σ → τ → Prop} {Q : α → β → Prop} {Q' : α' → β' → Prop}

theorem pure {a : α} {b : β} (h : Q a b) :
    Together P Q (Pure.pure a : Attempt σ ε α) (Pure.pure b : Attempt τ ε β) :=
  fun _ _ start => ⟨.ok h, start⟩

theorem ofExcept {r : Except ε α} {s : Except ε β} (h : Agree Q r s) :
    Together P Q (Attempt.ofExcept r : Attempt σ ε α) (Attempt.ofExcept s : Attempt τ ε β) :=
  fun _ _ start => ⟨h, start⟩

theorem modify {f : σ → σ} {g : τ → τ} (h : ∀ s t, P s t → P (f s) (g t)) :
    Together P Eq (Attempt.modify f : Attempt σ ε Unit) (Attempt.modify g : Attempt τ ε Unit) :=
  fun s t start => ⟨.ok rfl, h s t start⟩

/-- What follows has to go the same way for values that correspond. -/
theorem bind {x : Attempt σ ε α} {y : Attempt τ ε β} {f : α → Attempt σ ε α'}
    {g : β → Attempt τ ε β'} (first : Together P Q x y)
    (rest : ∀ a b, Q a b → Together P Q' (f a) (g b)) :
    Together P Q' (x >>= f) (y >>= g) := by
  intro s t start
  obtain ⟨agree, between⟩ := first s t start
  rw [run_bind, run_bind]
  cases hx : x.run s with
  | mk r s' =>
      cases hy : y.run t with
      | mk r' t' =>
          rw [hx, hy] at agree between
          cases agree with
          | ok h => exact rest _ _ h s' t' between
          | error e => exact ⟨.error e, between⟩

theorem mapM {ι : Type} {f : ι → Attempt σ ε α} {g : ι → Attempt τ ε β} (is : List ι)
    (each : ∀ i ∈ is, Together P Q (f i) (g i)) :
    Together P (List.Forall₂ Q) (is.mapM f) (is.mapM g) := by
  induction is with
  | nil => exact .pure .nil
  | cons i is ih =>
      rw [List.mapM_cons, List.mapM_cons]
      exact .bind (each i List.mem_cons_self) fun _ _ h =>
        .bind (ih fun j hj => each j (List.mem_cons_of_mem i hj)) fun _ _ hs =>
          .pure (.cons h hs)

end Together

end Attempt

end SpriteRenderer
