import SpriteRenderer.Table

/-! # Entries of tables

What holds of every entry of a table, and what tells its entries apart. -/

namespace SpriteRenderer.Table

variable {κ α β ε : Type} [DecidableEq κ]

/-- A table that stores what a computation made, unless it failed. -/
def insertOk (t : Table κ α) (k : κ) : Except ε α → Table κ α
  | .ok a => t.insert k a
  | .error _ => t

def insertSome (t : Table κ α) (k : κ) : Option α → Table κ α
  | some a => t.insert k a
  | none => t

/-- Storing takes no entry away. -/
theorem isSome_get?_insert {t : Table κ α} {j : κ} (h : (t.get? j).isSome) (k : κ) (a : α) :
    ((t.insert k a).get? j).isSome := by
  rw [get?_insert]
  split
  · rfl
  · exact h

theorem isSome_get?_insertOk {t : Table κ α} {j : κ} (h : (t.get? j).isSome) (k : κ)
    (r : Except ε α) : ((t.insertOk k r).get? j).isSome := by
  cases r with
  | error e => exact h
  | ok a => exact isSome_get?_insert h k a

/-! ## What holds of every entry -/

def All (P : κ → α → Prop) (t : Table κ α) : Prop := ∀ k a, t.get? k = some a → P k a

namespace All

variable {P Q : κ → α → Prop} {t : Table κ α}

theorem empty : (empty : Table κ α).All P := by
  intro k a h
  simp at h

theorem mono (h : t.All P) (hPQ : ∀ k a, t.get? k = some a → P k a → Q k a) : t.All Q :=
  fun k a found => hPQ k a found (h k a found)

/-- The new entry may take the place of an old one that is not looked at. -/
theorem of_insert {k : κ} {a : α} (others : ∀ j b, j ≠ k → t.get? j = some b → Q j b)
    (new : Q k a) : (t.insert k a).All Q := by
  intro j b found
  rw [get?_insert] at found
  by_cases hj : j = k
  · rw [if_pos hj, Option.some.injEq] at found
    rw [hj, ← found]
    exact new
  · rw [if_neg hj] at found
    exact others j b hj found

theorem of_erase {k : κ} (others : ∀ j b, j ≠ k → t.get? j = some b → Q j b) :
    (t.erase k).All Q := by
  intro j b found
  rw [get?_erase] at found
  by_cases hj : j = k
  · simp [hj] at found
  · rw [if_neg hj] at found
    exact others j b hj found

theorem replace {k : κ} {a : α} (h : t.All P) (others : ∀ j b, j ≠ k → P j b → Q j b)
    (new : Q k a) : (t.insert k a).All Q :=
  of_insert (fun j b hj found => others j b hj (h j b found)) new

/-- Only the new entry has to be looked at. -/
theorem insert {k : κ} {a : α} (h : t.All P) (new : P k a) : (t.insert k a).All P :=
  h.replace (fun _ _ _ => id) new

theorem insertOk {k : κ} {r : Except ε α} (h : t.All P) (new : ∀ a, r = .ok a → P k a) :
    (t.insertOk k r).All P := by
  cases r with
  | error e => exact h
  | ok a => exact h.insert (new a rfl)

theorem erase (h : t.All P) (k : κ) : (t.erase k).All P :=
  of_erase fun j b _ found => h j b found

end All

/-! ## Entries of two tables -/

/-- Every entry of a table has a partner under its key in another table. -/
def Paired (R : α → β → Prop) (t : Table κ α) (u : Table κ β) : Prop :=
  t.All fun k a => ∃ b, u.get? k = some b ∧ R a b

namespace Paired

variable {R S : α → β → Prop} {t : Table κ α} {u : Table κ β} {k : κ} {a : α} {b : β}

theorem empty : (Table.empty : Table κ α).Paired R u := All.empty

theorem mono (h : t.Paired R u)
    (hRS : ∀ k a b, t.get? k = some a → u.get? k = some b → R a b → S a b) : t.Paired S u :=
  All.mono h fun k a found ⟨b, partner, related⟩ => ⟨b, partner, hRS k a b found partner related⟩

theorem insert (h : t.Paired R u) (related : R a b) : (t.insert k a).Paired R (u.insert k b) :=
  h.replace (fun _ _ other ⟨c, partner, old⟩ => ⟨c, by rwa [get?_insert_of_ne _ _ other], old⟩)
    ⟨b, get?_insert_self u k b, related⟩

/-- An entry may change as long as its partner suits it. -/
theorem update (h : t.Paired R u) (partner : u.get? k = some b) (related : R a b) :
    (t.insert k a).Paired R u :=
  All.insert h ⟨b, partner, related⟩

theorem updateOk {r : Except ε α} (h : t.Paired R u) (partner : u.get? k = some b)
    (related : ∀ a, r = .ok a → R a b) : (t.insertOk k r).Paired R u :=
  All.insertOk h fun a made => ⟨b, partner, related a made⟩

theorem erase (h : t.Paired R u) (k : κ) : (t.erase k).Paired R u := All.erase h k

end Paired

/-- Two tables have related entries, or none, under each of some keys. -/
def Match (keys : κ → Prop) (R : α → β → Prop) (t : Table κ α) (u : Table κ β) : Prop :=
  ∀ k, keys k → Option.Rel R (t.get? k) (u.get? k)

namespace Match

variable {keys : κ → Prop} {R S : α → β → Prop} {t t' : Table κ α} {u : Table κ β}

theorem mono (h : Match keys R t u) (hRS : ∀ a b, R a b → S a b) : Match keys S t u := by
  intro k hk
  have related := h k hk
  generalize t.get? k = a, u.get? k = b at related ⊢
  cases related with
  | some related => exact .some (hRS _ _ related)
  | none => exact .none

theorem insert (h : Match keys R t u) {k : κ} {a : α} {b : β} (related : R a b) :
    Match keys R (t.insert k a) (u.insert k b) := by
  intro j hj
  rw [get?_insert, get?_insert]
  split
  · exact .some related
  · exact h j hj

/-- A table may change under other keys. -/
theorem of_same (h : Match keys R t u) (same : ∀ k, keys k → t'.get? k = t.get? k) :
    Match keys R t' u := by
  intro k hk
  rw [same k hk]
  exact h k hk

end Match

/-! ## What tells entries apart -/

/-- No two entries have the same value of `f`. -/
def Apart (f : α → β) (t : Table κ α) : Prop :=
  ∀ ⦃j k a b⦄, t.get? j = some a → t.get? k = some b → f a = f b → j = k

namespace Apart

variable {f : α → β} {t : Table κ α}

theorem empty : (empty : Table κ α).Apart f := by
  intro j k a b h
  simp at h

theorem insert {k : κ} {a : α} (h : t.Apart f)
    (new : ∀ j b, t.get? j = some b → f b = f a → j = k) : (t.insert k a).Apart f := by
  intro i j b c hi hj hf
  rw [get?_insert] at hi hj
  by_cases hik : i = k
  · by_cases hjk : j = k
    · rw [hik, hjk]
    · rw [if_pos hik, Option.some.injEq] at hi
      rw [if_neg hjk] at hj
      rw [hik, new j c hj (by rw [hi, hf])]
  · rw [if_neg hik] at hi
    by_cases hjk : j = k
    · rw [if_pos hjk, Option.some.injEq] at hj
      rw [hjk, new i b hi (by rw [hf, hj])]
    · rw [if_neg hjk] at hj
      exact h hi hj hf

/-- An entry may change as long as `f` does not tell. -/
theorem update {k : κ} {a b : α} (h : t.Apart f) (found : t.get? k = some a) (hf : f b = f a) :
    (t.insert k b).Apart f :=
  h.insert fun _ _ hj hfj => h hj found (hfj.trans hf)

theorem erase (h : t.Apart f) (k : κ) : (t.erase k).Apart f := by
  intro i j a b hi hj hf
  rw [get?_erase] at hi hj
  by_cases hik : i = k
  · simp [hik] at hi
  · by_cases hjk : j = k
    · simp [hjk] at hj
    · rw [if_neg hik] at hi
      rw [if_neg hjk] at hj
      exact h hi hj hf

end Apart

end SpriteRenderer.Table
