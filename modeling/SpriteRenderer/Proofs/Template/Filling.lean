import SpriteRenderer.Proofs.Action.Results
import SpriteRenderer.Template

/-! # Filling templates

Local rules for a template that is filled: a placeholder is replaced by what fills its slot, and
every other character stays. The rules do not invoke the splitting of the source. -/

namespace SpriteRenderer

namespace Slot

theorem name_ne_bracket (s : Slot) : ∀ c ∈ s.name.toList, c ≠ '>' := by
  cases s <;> simp [name]

theorem name_injective {s t : Slot} (h : s.name.toList = t.name.toList) : s = t := by
  have apart : ∀ s ∈ all, ∀ t ∈ all, s.name.toList = t.name.toList → s = t := by decide +kernel
  exact apart s (mem_all s) t (mem_all t) h

theorem named?_eq_some_iff {name : List Char} {s : Slot} :
    named? name = some s ↔ s.name.toList = name := by
  constructor
  · intro found
    simpa using List.find?_some found
  · rintro rfl
    cases found : named? s.name.toList with
    | none => simpa using List.find?_eq_none.mp found s (mem_all s)
    | some t => exact congrArg some (name_injective (by simpa using List.find?_some found))

/-- The name in a placeholder ends at the first closing bracket. -/
theorem takeWhile_closing_append (s : Slot) (rest : List Char) :
    (s.closing ++ rest).takeWhile (· ≠ '>') = s.name.toList := by
  rw [closing, List.append_assoc, List.takeWhile_append_of_pos]
  · simp
  · simpa using name_ne_bracket s

theorem takeWhile_append_prefix {rest : List Char} (closed : '>' ∈ rest) :
    rest.takeWhile (· ≠ '>') ++ ['>'] <+: rest := by
  induction rest with
  | nil => cases closed
  | cons c rest ih =>
      by_cases bracket : c = '>'
      · subst bracket
        exact ⟨rest, rfl⟩
      · have later : '>' ∈ rest := (List.mem_cons.mp closed).resolve_left (Ne.symm bracket)
        simpa [bracket] using ih later

theorem after?_eq_some_iff {rest : List Char} {s : Slot} :
    after? rest = some s ↔ s.closing <+: rest := by
  constructor
  · intro found
    unfold after? at found
    split at found
    case isFalse => cases found
    case isTrue closed =>
        rw [closing, named?_eq_some_iff.mp found]
        exact takeWhile_append_prefix closed
  · rintro ⟨rest, rfl⟩
    rw [after?, if_pos (by simp [closing]), takeWhile_closing_append]
    exact named?_eq_some_iff.mpr rfl

theorem eq_of_begins {s t : Slot} {rest : List Char} (hs : s.closing <+: rest)
    (ht : t.closing <+: rest) : s = t :=
  Option.some.inj ((after?_eq_some_iff.mpr hs).symm.trans (after?_eq_some_iff.mpr ht))

theorem after?_eq_none_iff {rest : List Char} :
    after? rest = none ↔ ∀ s : Slot, ¬ s.closing <+: rest := by
  constructor
  · intro absent s begins
    rw [after?_eq_some_iff.mpr begins] at absent
    cases absent
  · intro absent
    cases found : after? rest with
    | none => rfl
    | some s => exact absurd (after?_eq_some_iff.mp found) (absent s)

theorem placeholder_prefix_iff {s : Slot} {c : Char} {rest : List Char} :
    s.placeholder <+: c :: rest ↔ c = '<' ∧ s.closing <+: rest := by
  rw [placeholder, List.cons_prefix_cons, eq_comm]

end Slot

namespace Segment

/-! ## The first segment of a source -/

theorem split_placeholder_append (s : Slot) (rest : List Char) :
    split (s.placeholder ++ rest) = .slot s :: split rest := by
  have found : Slot.after? (s.closing ++ rest) = some s :=
    Slot.after?_eq_some_iff.mpr (List.prefix_append _ _)
  rw [Slot.placeholder, List.cons_append, split, if_pos rfl, found]
  simp

theorem split_cons {c : Char} {rest : List Char}
    (absent : ∀ s : Slot, ¬ s.placeholder <+: c :: rest) :
    split (c :: rest) = push c (split rest) := by
  rw [split]
  by_cases bracket : c = '<'
  · have none : Slot.after? rest = none := by
      rw [Slot.after?_eq_none_iff]
      intro s begins
      exact absent s (Slot.placeholder_prefix_iff.mpr ⟨bracket, begins⟩)
    rw [if_pos bracket, none]
  · rw [if_neg bracket]

theorem flatMap_fill_push (f : Slot → List Char) (c : Char) (segments : List Segment) :
    (push c segments).flatMap (fill f) = c :: segments.flatMap (fill f) := by
  cases segments with
  | nil => rfl
  | cons segment segments => cases segment <;> rfl

end Segment

namespace Template

/-- A source with its placeholders filled. What fills a slot is never looked at again. -/
inductive Filled (f : Slot → List Char) : List Char → List Char → Prop where
  | done : Filled f [] []
  | slot (s : Slot) {rest out} : Filled f rest out → Filled f (s.placeholder ++ rest) (f s ++ out)
  | text (c : Char) {rest out} (absent : ∀ s : Slot, ¬ s.placeholder <+: c :: rest) :
      Filled f rest out → Filled f (c :: rest) (c :: out)

namespace Filled

variable {f : Slot → List Char}

theorem execution {source out : List Char} (h : Filled f source out) :
    out = (Segment.split source).flatMap (Segment.fill f) := by
  induction h with
  | done => simp [Segment.split]
  | slot s _ ih =>
      rw [Segment.split_placeholder_append, List.flatMap_cons, ← ih]
      rfl
  | text c absent _ ih => rw [Segment.split_cons absent, Segment.flatMap_fill_push, ← ih]

theorem derivation (source : List Char) :
    Filled f source ((Segment.split source).flatMap (Segment.fill f)) := by
  induction h : source.length using Nat.strongRecOn generalizing source with
  | ind n ih =>
      by_cases begins : ∃ s : Slot, s.placeholder <+: source
      · obtain ⟨s, rest, rfl⟩ := begins
        rw [Segment.split_placeholder_append, List.flatMap_cons]
        refine .slot s (ih rest.length ?_ rest rfl)
        rw [← h, List.length_append, Slot.placeholder, List.length_cons]
        omega
      · have absent : ∀ s : Slot, ¬ s.placeholder <+: source := fun s hs => begins ⟨s, hs⟩
        cases source with
        | nil =>
            rw [Segment.split]
            exact .done
        | cons c rest =>
            rw [Segment.split_cons absent, Segment.flatMap_fill_push]
            refine .text c absent (ih rest.length ?_ rest rfl)
            rw [← h, List.length_cons]
            omega

end Filled

/-- The rules allow exactly one text. -/
theorem filled_iff {f : Slot → List Char} {source out : List Char} :
    Filled f source out ↔ out = (Segment.split source).flatMap (Segment.fill f) := by
  refine ⟨Filled.execution, ?_⟩
  intro h
  rw [h]
  exact Filled.derivation source

theorem eq_of_parse {source : String} {required : List Slot} {t : Template}
    (parsed : parse source required = .ok t) : t.segments = Segment.split source.toList := by
  simp only [parse] at parsed
  split at parsed
  case h_1 => cases parsed
  case h_2 =>
      cases parsed
      rfl

theorem filled_render {source : String} {required : List Slot} {t : Template}
    (parsed : parse source required = .ok t) (f : Slot → String) :
    Filled (fun s => (f s).toList) source.toList (t.render f).toList := by
  rw [filled_iff, render, String.toList_ofList, eq_of_parse parsed]

end Template

theorem ShaderTemplates.parse_eq_ok {vertex fragment : String} {t : ShaderTemplates}
    (parsed : parse vertex fragment = .ok t) :
    Template.parse vertex Slot.all = .ok t.vertex ∧
      Template.parse fragment [.version] = .ok t.fragment := by
  obtain ⟨v, vertexParsed, parsed⟩ := Result.bind_eq_ok parsed
  obtain ⟨f, fragmentParsed, parsed⟩ := Result.bind_eq_ok parsed
  cases parsed
  exact ⟨vertexParsed, fragmentParsed⟩

end SpriteRenderer
