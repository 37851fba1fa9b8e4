/-! # Finite tables

A table holds at most one value per key. -/

namespace SpriteRenderer

/-- A finite map, the entry inserted last in front. -/
structure Table (κ α : Type) where
  entries : List (κ × α) := []
deriving Repr

namespace Table

variable {κ α : Type} [DecidableEq κ]

def empty : Table κ α := {}

def erase (t : Table κ α) (k : κ) : Table κ α :=
  ⟨t.entries.filter (·.1 ≠ k)⟩

def insert (t : Table κ α) (k : κ) (a : α) : Table κ α :=
  ⟨(k, a) :: (t.erase k).entries⟩

def get? (t : Table κ α) (k : κ) : Option α :=
  (t.entries.find? (·.1 = k)).map (·.2)

/-- The keys of a table are its members. -/
instance : Membership κ (Table κ α) := ⟨fun t k => (t.get? k).isSome⟩

instance (k : κ) (t : Table κ α) : Decidable (k ∈ t) :=
  inferInstanceAs (Decidable ((t.get? k).isSome = true))

@[simp] theorem get?_empty (k : κ) : (empty : Table κ α).get? k = none := rfl

@[simp] theorem get?_insert_self (t : Table κ α) (k : κ) (a : α) :
    (t.insert k a).get? k = some a := by
  simp [insert, get?]

@[simp] theorem get?_erase_self (t : Table κ α) (k : κ) : (t.erase k).get? k = none := by
  simp [erase, get?]

theorem get?_erase_of_ne (t : Table κ α) {k j : κ} (h : j ≠ k) :
    (t.erase k).get? j = t.get? j := by
  simp only [erase, get?, List.find?_filter]
  congr 2
  funext e
  by_cases he : e.1 = j <;> simp [he, h]

theorem get?_insert_of_ne (t : Table κ α) {k j : κ} (a : α) (h : j ≠ k) :
    (t.insert k a).get? j = t.get? j := by
  rw [← get?_erase_of_ne t h]
  simp [insert, get?, Ne.symm h]

theorem get?_insert (t : Table κ α) (k j : κ) (a : α) :
    (t.insert k a).get? j = if j = k then some a else t.get? j := by
  by_cases h : j = k
  · subst h; simp
  · simp [h, get?_insert_of_ne t a h]

theorem get?_erase (t : Table κ α) (k j : κ) :
    (t.erase k).get? j = if j = k then none else t.get? j := by
  by_cases h : j = k
  · subst h; simp
  · simp [h, get?_erase_of_ne t h]

theorem mem_iff {t : Table κ α} {k : κ} : k ∈ t ↔ (t.get? k).isSome := Iff.rfl

@[simp] theorem not_mem_empty (k : κ) : k ∉ (empty : Table κ α) := by simp [mem_iff]

@[simp] theorem mem_insert {t : Table κ α} {k j : κ} {a : α} :
    j ∈ t.insert k a ↔ j = k ∨ j ∈ t := by
  rw [mem_iff, mem_iff, get?_insert]
  by_cases h : j = k <;> simp [h]

end Table

end SpriteRenderer
