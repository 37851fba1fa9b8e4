import Mathlib.Data.List.Count
import Mathlib.Data.List.Nodup
import SpriteRenderer.Proofs.Template.Counting

/-! # Substitution

What a source becomes when all its placeholders are replaced at once. Each place of the source is
looked at by itself, so nothing can depend on what another place has become. -/

namespace SpriteRenderer

theorem Segment.slots_push (c : Char) (segments : List Segment) :
    (push c segments).filterMap slot? = segments.filterMap slot? := by
  cases segments with
  | nil => rfl
  | cons segment segments => cases segment <;> rfl

namespace Template

/-! ## Places of a source -/

/-- The slot whose placeholder begins at a place. -/
def slotAt? (source : List Char) (place : Nat) : Option Slot :=
  Slot.all.find? (·.placeholder.isPrefixOf (source.drop place))

/-- A placeholder that begins further left goes on at the place. -/
def covered (source : List Char) (place : Nat) : Bool :=
  (List.range place).any fun start =>
    (slotAt? source start).any fun s => place < start + s.placeholder.length

/-- What a single place becomes. -/
def replacement (f : Slot → List Char) (source : List Char) (place : Nat) : List Char :=
  match slotAt? source place with
  | some s => f s
  | none => if covered source place then [] else source[place]?.toList

/-- The source with every placeholder replaced and every other character kept. -/
def substituted (f : Slot → List Char) (source : List Char) : List Char :=
  (List.range source.length).flatMap (replacement f source)

/-- The slots of a source from left to right. -/
def slotsOf (source : List Char) : List Slot :=
  (List.range source.length).filterMap (slotAt? source)

theorem slotAt?_eq_some_iff {source : List Char} {place : Nat} {s : Slot} :
    slotAt? source place = some s ↔ s.placeholder <+: source.drop place := by
  constructor
  · intro found
    simpa using List.find?_some found
  · intro begins
    cases found : slotAt? source place with
    | none => exact absurd begins (by simpa using List.find?_eq_none.mp found s (Slot.mem_all s))
    | some t =>
        have other : t.placeholder <+: source.drop place := by simpa using List.find?_some found
        obtain ⟨rest, whole⟩ := begins
        rw [← whole, Slot.placeholder.eq_def s, List.cons_append] at other
        have same := (Slot.placeholder_prefix_iff.mp other).2
        rw [Slot.eq_of_begins same (List.prefix_append _ _)]

theorem slotAt?_append (front rest : List Char) (place : Nat) :
    slotAt? (front ++ rest) (front.length + place) = slotAt? rest place := by
  rw [slotAt?, List.drop_length_add_append, slotAt?]

/-! ## Sources piece by piece

A piece at the front of a source stands for itself if no placeholder that begins in it goes on
behind it. -/

/-- No placeholder that begins in the front piece goes on in the rest. -/
def Parted (front rest : List Char) : Prop :=
  ∀ start < front.length, ∀ s : Slot, slotAt? (front ++ rest) start = some s →
    start + s.placeholder.length ≤ front.length

section

variable {front rest : List Char}

theorem Parted.covered_append (parted : Parted front rest) (place : Nat) :
    covered (front ++ rest) (front.length + place) = covered rest place := by
  have outside : (List.range front.length).any (fun start =>
      (slotAt? (front ++ rest) start).any fun s =>
        front.length + place < start + s.placeholder.length) = false := by
    rw [List.any_eq_false]
    intro start inside
    rw [Option.any_eq_true]
    rintro ⟨s, found, reaches⟩
    have ends := parted start (List.mem_range.mp inside) s found
    have past : front.length + place < start + s.placeholder.length := by simpa using reaches
    omega
  rw [covered, List.range_add, List.any_append, outside, Bool.false_or, List.any_map, covered]
  congr 1
  funext start
  simp only [Function.comp_apply, slotAt?_append]
  congr 1
  funext s
  simp only [Nat.add_assoc, Nat.add_lt_add_iff_left]

theorem Parted.replacement_append (parted : Parted front rest) (f : Slot → List Char)
    (place : Nat) :
    replacement f (front ++ rest) (front.length + place) = replacement f rest place := by
  have character : (front ++ rest)[front.length + place]? = rest[place]? := by
    rw [List.getElem?_append_right (Nat.le_add_right _ _), Nat.add_sub_cancel_left]
  rw [replacement, slotAt?_append, parted.covered_append, character, replacement]

theorem Parted.substituted_append (parted : Parted front rest) (f : Slot → List Char) :
    substituted f (front ++ rest) =
      (List.range front.length).flatMap (replacement f (front ++ rest)) ++
        substituted f rest := by
  rw [substituted, List.length_append, List.range_add, List.flatMap_append, List.flatMap_map]
  simp only [parted.replacement_append]
  rfl

theorem slotsOf_append (front rest : List Char) :
    slotsOf (front ++ rest) =
      (List.range front.length).filterMap (slotAt? (front ++ rest)) ++ slotsOf rest := by
  rw [slotsOf, List.length_append, List.range_add, List.filterMap_append, List.filterMap_map]
  simp only [Function.comp_def, slotAt?_append]
  rfl

end

/-! ## A placeholder at the front -/

section

variable (s : Slot) (rest : List Char)

theorem slotAt?_placeholder_zero : slotAt? (s.placeholder ++ rest) 0 = some s :=
  slotAt?_eq_some_iff.mpr (List.prefix_append _ _)

/-- No placeholder begins inside of another one. -/
theorem slotAt?_placeholder_succ {place : Nat} (inside : place < s.closing.length) :
    slotAt? (s.placeholder ++ rest) (place + 1) = none := by
  rw [Option.eq_none_iff_forall_ne_some]
  intro t found
  have begins := slotAt?_eq_some_iff.mp found
  rw [Slot.placeholder.eq_def s, List.cons_append, List.drop_succ_cons,
    List.drop_append_of_le_length (Nat.le_of_lt inside), List.drop_eq_getElem_cons inside,
    List.cons_append, Slot.placeholder_prefix_iff] at begins
  exact s.bracket_notMem_closing (begins.1 ▸ List.getElem_mem inside)

theorem parted_placeholder : Parted s.placeholder rest := by
  intro start inside t found
  cases start with
  | zero =>
      rw [slotAt?_placeholder_zero] at found
      cases found
      exact Nat.le_of_eq (Nat.zero_add _)
  | succ start =>
      rw [slotAt?_placeholder_succ s rest (Nat.lt_of_succ_lt_succ inside)] at found
      cases found

theorem covered_placeholder {place : Nat} (inside : place < s.closing.length) :
    covered (s.placeholder ++ rest) (place + 1) = true := by
  rw [covered, List.any_eq_true]
  refine ⟨0, by simp, ?_⟩
  rw [slotAt?_placeholder_zero]
  simpa [Slot.placeholder] using inside

/-- A placeholder becomes what fills its slot. -/
theorem substituted_placeholder_append (f : Slot → List Char) :
    substituted f (s.placeholder ++ rest) = f s ++ substituted f rest := by
  have first : replacement f (s.placeholder ++ rest) 0 = f s := by
    rw [replacement, slotAt?_placeholder_zero]
  have others : (List.range s.closing.length).flatMap
      (fun place => replacement f (s.placeholder ++ rest) (place + 1)) = [] := by
    rw [List.flatMap_eq_nil_iff]
    intro place inside
    rw [List.mem_range] at inside
    rw [replacement, slotAt?_placeholder_succ s rest inside]
    exact if_pos (covered_placeholder s rest inside)
  have length : s.placeholder.length = s.closing.length + 1 := rfl
  rw [(parted_placeholder s rest).substituted_append, length, List.range_succ_eq_map,
    List.flatMap_cons, List.flatMap_map, first, others, List.append_nil]

theorem slotsOf_placeholder_append :
    slotsOf (s.placeholder ++ rest) = s :: slotsOf rest := by
  have others : (List.range s.closing.length).filterMap
      (fun place => slotAt? (s.placeholder ++ rest) (place + 1)) = [] := by
    rw [List.filterMap_eq_nil_iff]
    intro place inside
    exact slotAt?_placeholder_succ s rest (List.mem_range.mp inside)
  have length : s.placeholder.length = s.closing.length + 1 := rfl
  rw [slotsOf_append, length, List.range_succ_eq_map,
    List.filterMap_cons_some (slotAt?_placeholder_zero s rest), List.filterMap_map]
  exact congrArg (s :: · ++ slotsOf rest) others

end

/-! ## A character at the front -/

section

variable {c : Char} {rest : List Char} (absent : ∀ s : Slot, ¬ s.placeholder <+: c :: rest)

include absent

theorem slotAt?_text : slotAt? ([c] ++ rest) 0 = none := by
  rw [Option.eq_none_iff_forall_ne_some]
  exact fun s found => absent s (slotAt?_eq_some_iff.mp found)

theorem parted_text : Parted [c] rest := by
  intro start inside s found
  obtain rfl : start = 0 := by simpa using inside
  rw [slotAt?_text absent] at found
  cases found

theorem substituted_text_cons (f : Slot → List Char) :
    substituted f (c :: rest) = c :: substituted f rest := by
  have first : replacement f ([c] ++ rest) 0 = [c] := by
    rw [replacement, slotAt?_text absent]
    rfl
  have whole := (parted_text absent).substituted_append f
  rwa [List.length_singleton, List.range_one, List.flatMap_singleton, first] at whole

theorem slotsOf_text_cons : slotsOf (c :: rest) = slotsOf rest := by
  have whole := slotsOf_append [c] rest
  rwa [List.length_singleton, List.range_one,
    List.filterMap_cons_none (slotAt?_text absent)] at whole

end

/-! ## Filling and substituting -/

namespace Filled

variable {f : Slot → List Char} {source out : List Char}

theorem eq_substituted (h : Filled f source out) : out = substituted f source := by
  induction h with
  | done => rfl
  | slot s _ ih => rw [substituted_placeholder_append, ih]
  | text c absent _ ih => rw [substituted_text_cons absent, ih]

theorem slots_split (h : Filled f source out) :
    (Segment.split source).filterMap Segment.slot? = slotsOf source := by
  induction h with
  | done =>
      rw [Segment.split]
      rfl
  | slot s _ ih =>
      rw [Segment.split_placeholder_append, slotsOf_placeholder_append, ← ih]
      rfl
  | text c absent _ ih => rw [Segment.split_cons absent, slotsOf_text_cons absent, ← ih,
      Segment.slots_push]

end Filled

section

variable {source : String} {required : List Slot} {t : Template}

theorem render_eq_substituted (parsed : parse source required = .ok t) (f : Slot → String) :
    t.render f = .ofList (substituted (fun s => (f s).toList) source.toList) := by
  rw [← (filled_render parsed f).eq_substituted, String.ofList_toList]

theorem slots_eq_slotsOf (parsed : parse source required = .ok t) :
    t.slots = slotsOf source.toList := by
  rw [slots, eq_of_parse parsed]
  exact (Filled.derivation (f := Slot.placeholder) source.toList).slots_split

theorem count_slots (segments : List Segment) (s : Slot) :
    (segments.filterMap Segment.slot?).count s = segments.count (.slot s) := by
  induction segments with
  | nil => rfl
  | cons segment segments ih =>
      cases segment with
      | text chars => simpa [Segment.slot?, List.filterMap_cons] using ih
      | slot t => simp [Segment.slot?, List.count_cons, ih]

/-- A template has each of its slots once. -/
theorem count_slotsOf (parsed : parse source required = .ok t) (s : Slot) :
    (slotsOf source.toList).count s = expected required s := by
  have counted : miscounted? required (Segment.split source.toList) = none := by
    simp only [parse] at parsed
    split at parsed
    case h_1 => cases parsed
    case h_2 none => exact none
  rw [← slots_eq_slotsOf parsed, slots, eq_of_parse parsed, count_slots]
  exact miscounted?_eq_none_iff.mp counted s

theorem nodup_slotsOf (parsed : parse source required = .ok t) :
    (slotsOf source.toList).Nodup := by
  rw [List.nodup_iff_count_le_one]
  intro s
  rw [count_slotsOf parsed, expected]
  split <;> omega

theorem mem_slotsOf_iff (parsed : parse source required = .ok t) (s : Slot) :
    s ∈ slotsOf source.toList ↔ s ∈ required := by
  rw [← List.count_pos_iff, count_slotsOf parsed, expected]
  split <;> simp_all

end

/-! ## Asking for the fillings -/

/-- What was answered for a slot. -/
def answered (answers : List (Slot × String)) (s : Slot) : List Char :=
  ((answers.lookup s).getD "").toList

theorem answered_cons_of_ne {answers : List (Slot × String)} {s t : Slot} (h : t ≠ s)
    (text : String) : answered ((s, text) :: answers) t = answered answers t := by
  rw [answered, List.lookup_cons, beq_eq_false_iff_ne.mpr h, answered]

theorem answered_cons_self (answers : List (Slot × String)) (s : Slot) (text : String) :
    answered ((s, text) :: answers) s = text.toList := by
  rw [answered, List.lookup_cons_self, Option.getD_some]

section

variable {m : Type → Type} [Monad m] [LawfulMonad m] (ask : Slot → m String)

/-- Asks for slots one after the other. -/
def askAll (slots : List Slot) : m (List (Slot × String)) :=
  slots.mapM fun s => do return (s, ← ask s)

/-- Segments are filled by asking for their slots, and only then writing all of them. -/
theorem mapM_segments {segments : List Segment}
    (apart : (segments.filterMap Segment.slot?).Nodup) :
    segments.mapM (Segment.fillM ask) = do
      let answers ← askAll ask (segments.filterMap Segment.slot?)
      return segments.map (Segment.fill (answered answers)) := by
  induction segments with
  | nil => simp [askAll]
  | cons segment segments ih =>
      cases segment with
      | text chars =>
          have later := ih apart
          simp only [List.mapM_cons, Segment.fillM, later, pure_bind, bind_assoc]
          rfl
      | slot s =>
          obtain ⟨fresh, apart⟩ := List.nodup_cons.mp apart
          have others (text : String) (answers : List (Slot × String)) :
              segments.map (Segment.fill (answered ((s, text) :: answers))) =
                segments.map (Segment.fill (answered answers)) := by
            refine List.map_congr_left fun segment mem => ?_
            cases segment with
            | text chars => rfl
            | slot t =>
                refine answered_cons_of_ne (fun same => fresh ?_) text
                exact List.mem_filterMap.mpr ⟨.slot t, mem, congrArg some same⟩
          have own (text : String) (answers : List (Slot × String)) :
              Segment.fill (answered ((s, text) :: answers)) (.slot s) = text.toList :=
            answered_cons_self answers s text
          simp only [List.mapM_cons, Segment.fillM, ih apart, askAll, Segment.slot?,
            List.filterMap_cons, pure_bind, bind_assoc, List.map_cons, others, own]

end

/-- A template asks for each required slot once, from left to right, and what is answered replaces
the placeholders of its source all at once. Nothing of an answer is replaced, whatever it is. -/
theorem render_substitutes {source : String} {required : List Slot} {t : Template}
    (parsed : parse source required = .ok t) :
    (slotsOf source.toList).Nodup ∧
    (∀ s, s ∈ slotsOf source.toList ↔ s ∈ required) ∧
    t.slots = slotsOf source.toList ∧
    (∀ f : Slot → String,
      t.render f = .ofList (substituted (fun s => (f s).toList) source.toList)) ∧
    ∀ {m : Type → Type} [Monad m] [LawfulMonad m] (ask : Slot → m String), t.renderM ask = do
      let answers ← askAll ask (slotsOf source.toList)
      return .ofList (substituted (answered answers) source.toList) := by
  have slots := slots_eq_slotsOf parsed
  have nodup := nodup_slotsOf parsed
  refine ⟨nodup, mem_slotsOf_iff parsed, slots, render_eq_substituted parsed, ?_⟩
  intro m _ _ ask
  have written (f : Slot → List Char) :
      (t.segments.map (Segment.fill f)).flatten = substituted f source.toList := by
    rw [← List.flatMap_def, eq_of_parse parsed]
    exact (Filled.derivation source.toList).eq_substituted
  have asked : t.segments.filterMap Segment.slot? = slotsOf source.toList := slots
  have apart : (t.segments.filterMap Segment.slot?).Nodup := by rwa [asked]
  rw [renderM, mapM_segments ask apart, asked]
  simp only [bind_assoc, pure_bind, written]

/-- Fillings that are placeholders, or would become one with the brackets around them. Each is
counted when it is asked for. -/
def trickyFilling (s : Slot) : StateM (List Slot) String := do
  modify (· ++ [s])
  return if s = .position then "layer" else "<pos>"

/-- A template whose brackets would make a placeholder of the name of a slot. -/
def bracketed : Template :=
  ⟨[.text ['<'], .slot .position, .text ['>', ' '], .slot .layer, .text ['<']]⟩

theorem render_substitutes_trickyFilling :
    parse "<<pos>> <layer><" [.layer, .position] = .ok bracketed ∧
      (bracketed.renderM trickyFilling).run [] = ("<layer> <pos><", [.position, .layer]) := by
  have parsed : parse "<<pos>> <layer><" [.layer, .position] = .ok bracketed := by decide +kernel
  obtain ⟨-, -, -, -, asks⟩ := render_substitutes parsed
  have slots : slotsOf "<<pos>> <layer><".toList = [.position, .layer] := by decide +kernel
  refine ⟨parsed, ?_⟩
  rw [asks trickyFilling, slots]
  rfl

end Template

end SpriteRenderer
