import Mathlib.Data.List.Infix
import SpriteRenderer.Proofs.Template.Filling

/-! # Placeholders of a source

What a template is checked for can be said of its source alone: how often each placeholder stands
in it as a piece of text. -/

namespace SpriteRenderer

/-! ## Occurrences -/

/-- The number of places at which a text begins in a source. -/
def occurrences (text source : List Char) : Nat := source.tails.countP (text.isPrefixOf ·)

theorem occurrences_cons (text : List Char) (c : Char) (rest : List Char) :
    occurrences text (c :: rest) =
      occurrences text rest + if text <+: c :: rest then 1 else 0 := by
  simp [occurrences, List.countP_cons]

namespace Slot

theorem bracket_notMem_closing (s : Slot) : '<' ∉ s.closing := by cases s <;> decide

theorem occurrences_nil (s : Slot) : occurrences s.placeholder [] = 0 := rfl

/-- No placeholder begins at a character other than an opening bracket. -/
theorem occurrences_append_of_notMem (s : Slot) {text : List Char} (plain : '<' ∉ text)
    (rest : List Char) :
    occurrences s.placeholder (text ++ rest) = occurrences s.placeholder rest := by
  induction text with
  | nil => rfl
  | cons c text ih =>
      rw [List.mem_cons, not_or] at plain
      have elsewhere : ¬ s.placeholder <+: c :: (text ++ rest) := by
        rw [placeholder_prefix_iff]
        exact fun h => plain.1 h.1.symm
      rw [List.cons_append, occurrences_cons, if_neg elsewhere, ih plain.2]
      rfl

theorem occurrences_placeholder_append (s t : Slot) (rest : List Char) :
    occurrences s.placeholder (t.placeholder ++ rest) =
      occurrences s.placeholder rest + if t = s then 1 else 0 := by
  have begins : s.placeholder <+: '<' :: (t.closing ++ rest) ↔ t = s := by
    rw [placeholder_prefix_iff, and_iff_right rfl]
    constructor
    · intro h
      exact eq_of_begins (List.prefix_append _ _) h
    · rintro rfl
      exact List.prefix_append _ _
  rw [placeholder.eq_def t, List.cons_append, occurrences_cons,
    occurrences_append_of_notMem s (bracket_notMem_closing t)]
  simp only [begins]

end Slot

/-! ## Segments of a source -/

theorem Segment.count_push (s : Slot) (c : Char) (segments : List Segment) :
    (push c segments).count (.slot s) = segments.count (.slot s) := by
  cases segments with
  | nil => simp [push]
  | cons segment segments => cases segment <;> simp [push]

namespace Template

variable {f : Slot → List Char} {source out : List Char}

/-- Text does not hide a placeholder and does not make up one. -/
theorem Filled.count_split (h : Filled f source out) (s : Slot) :
    (Segment.split source).count (.slot s) = occurrences s.placeholder source := by
  induction h with
  | done => simp [Segment.split, Slot.occurrences_nil]
  | slot t _ ih =>
      rw [Segment.split_placeholder_append, List.count_cons, ih,
        Slot.occurrences_placeholder_append]
      simp
  | text c absent _ ih =>
      rw [Segment.split_cons absent, Segment.count_push, ih, occurrences_cons,
        if_neg (absent s)]
      rfl

/-- A placeholder that is filled with itself is not changed. -/
theorem Filled.eq_source (h : Filled Slot.placeholder source out) : out = source := by
  induction h with
  | done => rfl
  | slot s _ ih => rw [ih]
  | text c _ _ ih => rw [ih]

theorem flatMap_source_split (source : List Char) :
    (Segment.split source).flatMap Segment.source = source := by
  have written : Segment.source = Segment.fill Slot.placeholder := by
    funext segment
    cases segment <;> rfl
  rw [written]
  exact (Filled.derivation source).eq_source

/-! ## The check of a template -/

/-- How often a source should have a slot. -/
def expected (required : List Slot) (s : Slot) : Nat := if s ∈ required then 1 else 0

/-- What is checked first is wrong first. -/
theorem miscounted?_eq_some_iff {required : List Slot} {segments : List Segment} {s : Slot}
    {n count : Nat} :
    miscounted? required segments = some (s, n, count) ↔
      ∃ before after, Slot.all = before ++ s :: after ∧
        (∀ t ∈ before, segments.count (.slot t) = expected required t) ∧
        segments.count (.slot s) ≠ expected required s ∧
        n = expected required s ∧ count = segments.count (.slot s) := by
  simp only [miscounted?, List.findSome?_eq_some_iff, Option.ite_none_left_eq_some,
    Option.some.injEq, Prod.mk.injEq, ite_eq_left_iff, reduceCtorEq, imp_false, Decidable.not_not]
  constructor
  · rintro ⟨before, _, after, order, ⟨wrong, rfl, rfl, rfl⟩, right⟩
    exact ⟨before, after, order, right, wrong, rfl, rfl⟩
  · rintro ⟨before, after, order, right, wrong, rfl, rfl⟩
    exact ⟨before, s, after, order, ⟨wrong, rfl, rfl, rfl⟩, right⟩

theorem miscounted?_eq_none_iff {required : List Slot} {segments : List Segment} :
    miscounted? required segments = none ↔
      ∀ s : Slot, segments.count (.slot s) = expected required s := by
  simp only [miscounted?, List.findSome?_eq_none_iff, ite_eq_left_iff, reduceCtorEq, imp_false,
    Decidable.not_not, Slot.mem_all, forall_true_left]
  rfl

theorem parse_eq_error_iff {source : String} {required : List Slot} {e : RenderError} :
    parse source required = .error e ↔
      ∃ s n count, miscounted? required (Segment.split source.toList) = some (s, n, count) ∧
        e = .templateError s n count := by
  simp only [parse]
  cases miscounted? required (Segment.split source.toList) with
  | none => simp
  | some wrong => simp [Prod.ext_iff, eq_comm]

/-- The required slots once and no other slot. -/
structure ExactlyOnce (required : List Slot) (source : List Char) : Prop where
  once : ∀ s ∈ required, occurrences s.placeholder source = 1
  never : ∀ s ∉ required, occurrences s.placeholder source = 0

theorem exactlyOnce_iff {required : List Slot} {source : List Char} :
    ExactlyOnce required source ↔
      ∀ s : Slot, occurrences s.placeholder source = expected required s := by
  constructor
  · intro h s
    unfold expected
    split
    case isTrue mem => exact h.once s mem
    case isFalse other => exact h.never s other
  · intro right
    constructor
    · intro s mem
      rw [right, expected, if_pos mem]
    · intro s other
      rw [right, expected, if_neg other]

/-- A source is a template if it has the required placeholders once and no others. If it is
refused, the error is about the first slot that it has too often or too seldom. Nothing of the
source is lost in its segments. -/
theorem parse_exactly_once (source : String) (required : List Slot) :
    (∀ s : Slot, (Segment.split source.toList).count (.slot s) =
      occurrences s.placeholder source.toList) ∧
    (Segment.split source.toList).flatMap Segment.source = source.toList ∧
    ((∃ t, parse source required = .ok t) ↔ ExactlyOnce required source.toList) ∧
    (∀ t, parse source required = .ok t → t.segments = Segment.split source.toList) ∧
    ∀ e, parse source required = .error e ↔
      ∃ before s after, Slot.all = before ++ s :: after ∧
        (∀ t ∈ before, occurrences t.placeholder source.toList = expected required t) ∧
        occurrences s.placeholder source.toList ≠ expected required s ∧
        e = .templateError s (expected required s)
          (occurrences s.placeholder source.toList) := by
  have counts := (Filled.derivation (f := Slot.placeholder) source.toList).count_split
  refine ⟨counts, flatMap_source_split _, ?_, fun t => eq_of_parse, ?_⟩
  · rw [exactlyOnce_iff]
    simp only [← counts, ← miscounted?_eq_none_iff, parse]
    cases miscounted? required (Segment.split source.toList) <;> simp
  · intro e
    simp only [parse_eq_error_iff, miscounted?_eq_some_iff, counts]
    constructor
    · rintro ⟨s, _, _, ⟨before, after, order, right, wrong, rfl, rfl⟩, rfl⟩
      exact ⟨before, s, after, order, right, wrong, rfl⟩
    · rintro ⟨before, s, after, order, right, wrong, rfl⟩
      exact ⟨s, _, _, ⟨before, after, order, right, wrong, rfl, rfl⟩, rfl⟩

end Template

end SpriteRenderer
