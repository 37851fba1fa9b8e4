import SpriteRenderer.Proofs.Script.Transition

/-! # Histories of scripts

A history keeps every step of a script with the scene that it met and the answer that it got. -/

namespace SpriteRenderer.Script

variable {δ ℓ : Type}

structure Moment (δ ℓ : Type) where
  scene : Scene δ ℓ
  step : Step
  answer : Except StepError Answer

variable [Device δ ℓ]

/-- Every step as it was carried out, the first one in front. -/
def history (s : Scene δ ℓ) : List Step → List (Moment δ ℓ)
  | [] => []
  | a :: steps => ⟨s, a, ((perform a).run s).1⟩ :: history ((perform a).run s).2 steps

theorem run_append (s : Scene δ ℓ) (steps more : List Step) :
    (run (steps ++ more) s).2 = (run more (run steps s).2).2 := by
  induction steps generalizing s with
  | nil => rfl
  | cons a steps ih => exact ih ((perform a).run s).2

theorem history_append (s : Scene δ ℓ) (steps more : List Step) :
    history s (steps ++ more) = history s steps ++ history (run steps s).2 more := by
  induction steps generalizing s with
  | nil => rfl
  | cons a steps ih =>
      exact congrArg (⟨s, a, ((perform a).run s).1⟩ :: ·) (ih ((perform a).run s).2)

/-- What holds at the start and is kept by every transition holds after every script. -/
theorem history_induction {I : List (Moment δ ℓ) → Scene δ ℓ → Prop}
    (step : ∀ ms s a out, Transition s a out → I ms s → I (ms ++ [⟨s, a, out.1⟩]) out.2)
    (steps : List Step) {s₀ : Scene δ ℓ} (start : I [] s₀) :
    I (history s₀ steps) (run steps s₀).2 := by
  suffices later : ∀ ms s, I ms s → I (ms ++ history s steps) (run steps s).2 from
    later [] s₀ start
  induction steps with
  | nil =>
      intro ms s h
      rw [history, List.append_nil]
      exact h
  | cons a steps ih =>
      intro ms s h
      have next := step ms s a _ (transition_perform a s) h
      rw [history, List.append_cons]
      exact ih _ _ next

end SpriteRenderer.Script
