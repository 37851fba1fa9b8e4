import Mathlib.Algebra.Order.BigOperators.Group.List
import Mathlib.Algebra.Order.Group.Multiset
import SpriteRenderer.Proofs.Action.Results
import SpriteRenderer.Proofs.Table.Entries

/-! # Totals of tables

What the entries of a table have together, when each has its own share. -/

namespace SpriteRenderer.Table

variable {κ α β : Type} [DecidableEq κ] {f : α → Multiset β} {t : Table κ α} {k : κ}

/-- What all entries of a table have together. -/
def total (f : α → Multiset β) (t : Table κ α) : Multiset β := (t.entries.map fun e => f e.2).sum

omit [DecidableEq κ] in
theorem exists_of_mem_total {b : β} (h : b ∈ t.total f) : ∃ a, b ∈ f a := by
  obtain ⟨entries⟩ := t
  induction entries with
  | nil => simp [total] at h
  | cons e entries ih =>
      rw [total, List.map_cons, List.sum_cons, Multiset.mem_add] at h
      rcases h with first | rest
      · exact ⟨e.2, first⟩
      · exact ih rest

theorem total_erase_le (f : α → Multiset β) (t : Table κ α) (k : κ) :
    (t.erase k).total f ≤ t.total f :=
  (List.filter_sublist.map _).sum_le_sum fun _ _ => Multiset.zero_le _

/-- An entry and those under other names are different ones. -/
theorem add_total_erase_le {a : α} (found : t.get? k = some a) :
    f a + (t.erase k).total f ≤ t.total f := by
  obtain ⟨entries⟩ := t
  induction entries with
  | nil => cases found
  | cons e entries ih =>
      simp only [total, erase, List.map_cons, List.sum_cons]
      by_cases here : e.1 = k
      · have first : e.2 = a := by simpa [get?, here] using found
        rw [List.filter_cons_of_neg (by simp [here]), first]
        exact add_le_add_right (total_erase_le f ⟨entries⟩ k) _
      · have later : get? ⟨entries⟩ k = some a := by simpa [get?, here] using found
        rw [List.filter_cons_of_pos (by simp [here]), List.map_cons, List.sum_cons, add_left_comm]
        exact add_le_add_right (ih later) _

theorem le_total {a : α} (found : t.get? k = some a) : f a ≤ t.total f :=
  (Multiset.le_add_right _ _).trans (add_total_erase_le found)

/-- Entries under different names have different shares. -/
theorem add_le_total {j : κ} {a b : α} (found : t.get? k = some a) (found' : t.get? j = some b)
    (other : j ≠ k) : f a + f b ≤ t.total f := by
  have rest : (t.erase k).get? j = some b := by rwa [get?_erase_of_ne t other]
  exact (add_le_add_right (le_total rest) _).trans (add_total_erase_le found)

theorem total_insert_le (f : α → Multiset β) (t : Table κ α) (k : κ) (a : α) :
    (t.insert k a).total f ≤ f a + t.total f :=
  add_le_add_right (total_erase_le f t k) _

theorem total_insert_le_of_eq {a b : α} (found : t.get? k = some a) (same : f b = f a) :
    (t.insert k b).total f ≤ t.total f := by
  have entry := add_total_erase_le (f := f) found
  rw [← same] at entry
  exact entry

theorem total_insertOk_le_add {ε : Type} (f : α → Multiset β) (t : Table κ α) (k : κ)
    (r : Except ε α) : (t.insertOk k r).total f ≤ (r.toOption.map f).getD 0 + t.total f := by
  cases r with
  | error e => exact le_of_eq (zero_add _).symm
  | ok a => exact total_insert_le f t k a

theorem total_insertOk_le {σ ε : Type} {a : α} {x : Attempt σ ε α} {r : Except ε α} {s s' : σ}
    (found : t.get? k = some a) (same : x.Yields fun b => f b = f a) (ran : x.run s = (r, s')) :
    (t.insertOk k r).total f ≤ t.total f := by
  cases r with
  | error e => exact le_rfl
  | ok b => exact total_insert_le_of_eq found (same s b s' ran)

theorem All.insertOk_of_run {σ ε : Type} {P : κ → α → Prop} {x : Attempt σ ε α} {r : Except ε α}
    {s s' : σ} (h : t.All P) (yields : x.Yields (P k)) (ran : x.run s = (r, s')) :
    (t.insertOk k r).All P := by
  refine h.insertOk fun a made => ?_
  rw [made] at ran
  exact yields s a s' ran

end SpriteRenderer.Table
