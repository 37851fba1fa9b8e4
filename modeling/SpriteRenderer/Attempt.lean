/-! # Computations that may fail

An attempt changes a state and ends with a value or an error. What it did before it failed
stays done. -/

namespace SpriteRenderer

/-- A computation on states `σ` with values `α` and errors `ε`. -/
def Attempt (σ ε α : Type) := σ → Except ε α × σ

namespace Attempt

variable {σ ε α β : Type}

instance : Monad (Attempt σ ε) where
  pure a := fun s => (.ok a, s)
  bind x f := fun s =>
    match x s with
    | (.ok a, s) => f a s
    | (.error e, s) => (.error e, s)

def run (x : Attempt σ ε α) (s : σ) : Except ε α × σ := x s

/-- A result that the state does not matter to. -/
def ofExcept (r : Except ε α) : Attempt σ ε α := fun s => (r, s)

def fail (e : ε) : Attempt σ ε α := ofExcept (.error e)

/-- A value of the state. -/
def read (f : σ → α) : Attempt σ ε α := fun s => (.ok (f s), s)

def modify (f : σ → σ) : Attempt σ ε Unit := fun s => (.ok (), f s)

/-- Runs an attempt and, if it fails, changes the state that the failure left. -/
def onFailure (x : Attempt σ ε α) (f : σ → σ) : Attempt σ ε α := fun s =>
  match x s with
  | (.ok a, s) => (.ok a, s)
  | (.error e, s) => (.error e, f s)

@[simp] theorem run_pure (a : α) (s : σ) : run (pure a : Attempt σ ε α) s = (.ok a, s) := rfl

theorem run_bind (x : Attempt σ ε α) (f : α → Attempt σ ε β) (s : σ) :
    run (x >>= f) s =
      match run x s with
      | (.ok a, s) => run (f a) s
      | (.error e, s) => (.error e, s) := rfl

theorem run_bind_of_ok {x : Attempt σ ε α} {s s' : σ} {a : α} (f : α → Attempt σ ε β)
    (h : run x s = (.ok a, s')) : run (x >>= f) s = run (f a) s' := by
  rw [run_bind, h]

theorem run_bind_of_error {x : Attempt σ ε α} {s s' : σ} {e : ε} (f : α → Attempt σ ε β)
    (h : run x s = (.error e, s')) : run (x >>= f) s = (.error e, s') := by
  rw [run_bind, h]

@[simp] theorem run_ofExcept (r : Except ε α) (s : σ) : run (ofExcept r) s = (r, s) := rfl

@[simp] theorem run_fail (e : ε) (s : σ) : run (fail e : Attempt σ ε α) s = (.error e, s) := rfl

@[simp] theorem run_read (f : σ → α) (s : σ) :
    run (read f : Attempt σ ε α) s = (.ok (f s), s) := rfl

@[simp] theorem run_modify (f : σ → σ) (s : σ) :
    run (modify f : Attempt σ ε Unit) s = (.ok (), f s) := rfl

theorem run_onFailure (x : Attempt σ ε α) (f : σ → σ) (s : σ) :
    run (x.onFailure f) s =
      match run x s with
      | (.ok a, s) => (.ok a, s)
      | (.error e, s) => (.error e, f s) := rfl

instance : LawfulMonad (Attempt σ ε) :=
  .mk' (Attempt σ ε)
    (fun x => by
      funext s
      change (match x s with | (.ok a, s) => (.ok a, s) | (.error e, s) => (.error e, s)) = x s
      rcases x s with ⟨_ | _, _⟩ <;> rfl)
    (fun _ _ => rfl)
    (fun x f g => by
      funext s
      change run (x >>= f >>= g) s = run (x >>= fun a => f a >>= g) s
      simp only [run_bind]
      rcases run x s with ⟨_ | _, _⟩ <;> rfl)

end Attempt

end SpriteRenderer
