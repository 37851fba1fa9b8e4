import Mathlib.Data.List.Basic
import SpriteRenderer.Device.Headless
import SpriteRenderer.Procedure.Composition

/-! # Lines and words

A text splits into lines at every line feed. A line that is a declaration, blanks around it left
out, declares its name. -/

namespace SpriteRenderer

namespace Text

/-! ## Lines -/

theorem lines_ne_nil (cs : List Char) : lines cs ≠ [] := by
  cases cs with
  | nil => simp [lines]
  | cons c cs =>
      rw [lines]
      split
      · simp
      · split <;> simp

/-- Everything about lines follows from this equation. -/
theorem lines_append_newline (as bs : List Char) :
    lines (as ++ '\n' :: bs) = lines as ++ lines bs := by
  induction as with
  | nil => simp [lines]
  | cons a as ih =>
      rw [List.cons_append, lines, lines, ih]
      by_cases newline : a = '\n'
      · simp [newline]
      · rw [if_neg newline, if_neg newline]
        cases first : lines as with
        | nil => exact absurd first (lines_ne_nil as)
        | cons l ls => rfl

theorem lines_of_notMem {l : List Char} (h : '\n' ∉ l) : lines l = [l] := by
  induction l with
  | nil => rfl
  | cons c l ih =>
      rw [List.mem_cons, not_or] at h
      rw [lines, if_neg (Ne.symm h.1), ih h.2]

/-- A line has no line feed. -/
theorem notMem_of_mem_lines {l source : List Char} (h : l ∈ lines source) : '\n' ∉ l := by
  induction n : source.length using Nat.strongRecOn generalizing source with
  | ind n ih =>
      by_cases newline : '\n' ∈ source
      · obtain ⟨as, bs, rfl⟩ := List.append_of_mem newline
        rw [lines_append_newline, List.mem_append] at h
        rw [List.length_append, List.length_cons] at n
        rcases h with h | h
        · exact ih as.length (by omega) h rfl
        · exact ih bs.length (by omega) h rfl
      · rw [lines_of_notMem newline, List.mem_singleton] at h
        exact h ▸ newline

/-- Each of several lines is a line of the text that they make, with what is put before the first
and after the last one. -/
theorem exists_line_of_mem {ds : List (List Char)} (lined : ∀ d ∈ ds, '\n' ∉ d)
    {left right : List Char} (hleft : '\n' ∉ left) (hright : '\n' ∉ right) {d : List Char}
    (hd : d ∈ ds) :
    ∃ l r, l ⊆ left ∧ r ⊆ right ∧
      l ++ d ++ r ∈ lines (left ++ ['\n'].intercalate ds ++ right) := by
  induction ds generalizing left with
  | nil => cases hd
  | cons e ds ih =>
      have he : '\n' ∉ left ++ e := by simp [hleft, lined e]
      cases ds with
      | nil =>
          obtain rfl : d = e := by simpa using hd
          have whole : '\n' ∉ left ++ d ++ right := by simp [hleft, hright, lined d]
          refine ⟨left, right, fun _ => id, fun _ => id, ?_⟩
          rw [List.intercalate_singleton, lines_of_notMem whole]
          exact List.mem_singleton_self _
      | cons e' ds =>
          have cut : left ++ ['\n'].intercalate (e :: e' :: ds) ++ right =
              (left ++ e) ++ '\n' :: ([] ++ ['\n'].intercalate (e' :: ds) ++ right) := by
            simp [List.intercalate_cons_cons]
          rw [cut, lines_append_newline, lines_of_notMem he]
          rcases List.mem_cons.mp hd with rfl | hd
          · exact ⟨left, [], fun _ => id, List.nil_subset _, by simp⟩
          · obtain ⟨l, r, hl, hr, line⟩ :=
              ih (fun d hd => lined d (List.mem_cons_of_mem _ hd)) List.not_mem_nil hd
            have none : l = [] := List.subset_nil.mp hl
            exact ⟨l, r, none ▸ List.nil_subset _, hr, List.mem_append_right _ line⟩

/-! ## Words -/

section

variable {p : Char → Bool} {cs blanks : List Char} {c : Char}

theorem dropEndWhile_append_of_pos (h : ∀ c ∈ blanks, p c = true) :
    dropEndWhile p (cs ++ blanks) = dropEndWhile p cs := by
  rw [dropEndWhile, List.reverse_append, List.dropWhile_append_of_pos (by simpa using h)]
  rfl

theorem dropEndWhile_concat_of_neg (h : p c = false) : dropEndWhile p (cs ++ [c]) = cs ++ [c] := by
  simp [dropEndWhile, h]

end

/-- The word after the last blank. -/
theorem lastWord?_append {cs word : List Char} (nonempty : word ≠ [])
    (unbroken : ∀ c ∈ word, isBlank c = false) : lastWord? (cs ++ ' ' :: word) = some word := by
  have blank : isBlank ' ' = true := by decide
  obtain ⟨start, last, rfl⟩ := (List.eq_nil_or_concat' word).resolve_left nonempty
  have ends : isBlank last = false := unbroken last (by simp)
  have reversed : ((cs ++ ' ' :: (start ++ [last])).reverse.dropWhile isBlank).takeWhile
      (!isBlank ·) = (start ++ [last]).reverse := by
    have word : (cs ++ ' ' :: (start ++ [last])).reverse =
        last :: (start.reverse ++ ' ' :: cs.reverse) := by simp
    rw [word, List.dropWhile_cons_of_neg (by simp [ends]),
      List.takeWhile_cons_of_pos (by simp [ends]),
      List.takeWhile_append_of_pos (by simpa using fun c hc => unbroken c (by simp [hc])),
      List.takeWhile_cons_of_neg (by simp [blank])]
    simp
  rw [lastWord?, reversed, List.reverse_reverse]
  split
  · next none => exact absurd none nonempty
  · rfl

end Text

/-! ## Declarations -/

namespace Headless

/-- A declaration declares its name, whatever its type, and whatever blanks are around it. -/
theorem declaredBy?_declaration {left right type word : List Char}
    (hleft : ∀ c ∈ left, Text.isBlank c = true) (hright : ∀ c ∈ right, Text.isBlank c = true)
    (nonempty : word ≠ []) (unbroken : ∀ c ∈ word, Text.isBlank c = false) (open_ : ';' ∉ word) :
    declaredBy? (left ++ ("uniform ".toList ++ type ++ ' ' :: word ++ [';']) ++ right) =
      some word := by
  have start : (left ++ ("uniform ".toList ++ type ++ ' ' :: word ++ [';']) ++ right).dropWhile
      Text.isBlank = "uniform ".toList ++ (type ++ ' ' :: word ++ [';'] ++ right) := by
    rw [List.append_assoc, List.dropWhile_append_of_pos hleft]
    simp [Text.isBlank]
  have stop : Text.dropEndWhile (· = ';') (Text.dropEndWhile Text.isBlank
      (left ++ ("uniform ".toList ++ type ++ ' ' :: word ++ [';']) ++ right)) =
      (left ++ "uniform ".toList ++ type) ++ ' ' :: word := by
    obtain ⟨begins, last, rfl⟩ := (List.eq_nil_or_concat' word).resolve_left nonempty
    have ends : decide (last = ';') = false := by
      rw [decide_eq_false_iff_not]
      rintro rfl
      exact open_ (by simp)
    have regroup : left ++ ("uniform ".toList ++ type ++ ' ' :: (begins ++ [last]) ++ [';']) =
        (left ++ "uniform ".toList ++ type ++ ' ' :: begins ++ [last]) ++ [';'] := by
      simp
    rw [Text.dropEndWhile_append_of_pos hright, regroup,
      Text.dropEndWhile_concat_of_neg (by decide), Text.dropEndWhile_append_of_pos (by simp),
      Text.dropEndWhile_concat_of_neg ends]
    simp
  rw [declaredBy?, start, if_pos (by simp), stop]
  exact Text.lastWord?_append nonempty unbroken

end Headless

namespace Channel

theorem toList_name (c : Channel) : c.name.toList = 'c' :: Nat.toDigits 10 c.id := by
  simp [name]
  rfl

theorem not_blank_of_isDigit {c : Char} (h : c.isDigit = true) :
    Text.isBlank c = false ∧ c ≠ ';' ∧ c ≠ '\n' := by
  have range : 48 ≤ c.toNat ∧ c.toNat ≤ 57 := by
    simpa [Char.isDigit, UInt32.le_iff_toNat_le] using h
  refine ⟨?_, ?_, ?_⟩
  · simp only [Text.isBlank, Bool.or_eq_false_iff, Bool.and_eq_false_iff, decide_eq_false_iff_not,
      beq_eq_false_iff_ne]
    omega
  · rintro rfl
    exact absurd range (by decide)
  · rintro rfl
    exact absurd range (by decide)

/-- The characters of a name, its letter and its digits. -/
theorem not_blank_of_mem_name {c : Channel} {x : Char} (hx : x ∈ c.name.toList) :
    Text.isBlank x = false ∧ x ≠ ';' ∧ x ≠ '\n' := by
  rw [toList_name, List.mem_cons] at hx
  rcases hx with rfl | hx
  · decide
  · exact not_blank_of_isDigit (Nat.isDigit_of_mem_toDigits (by decide) (by decide) hx)

theorem toList_uniformDeclaration (c : Channel) : c.uniformDeclaration.toList =
    "uniform ".toList ++ c.type.glslName.toList ++ ' ' :: c.name.toList ++ [';'] := by
  simp [uniformDeclaration]
  rfl

theorem newline_notMem_uniformDeclaration (c : Channel) :
    '\n' ∉ c.uniformDeclaration.toList := by
  have types : ∀ t ∈ ShaderType.all, '\n' ∉ t.glslName.toList := by decide
  have name : '\n' ∉ c.name.toList := fun newline => (not_blank_of_mem_name newline).2.2 rfl
  rw [toList_uniformDeclaration]
  simp [types c.type (ShaderType.mem_all _), name]

theorem declaredBy?_uniformDeclaration (c : Channel) {left right : List Char}
    (hleft : ∀ x ∈ left, Text.isBlank x = true) (hright : ∀ x ∈ right, Text.isBlank x = true) :
    Headless.declaredBy? (left ++ c.uniformDeclaration.toList ++ right) = some c.name.toList := by
  rw [toList_uniformDeclaration]
  refine Headless.declaredBy?_declaration hleft hright ?_ (fun x hx => (not_blank_of_mem_name hx).1)
    fun semicolon => (not_blank_of_mem_name semicolon).2.1 rfl
  rw [toList_name]
  exact List.cons_ne_nil _ _

end Channel

end SpriteRenderer
