import Mathlib.Data.List.Basic
import SpriteRenderer.Proofs.Sprite.Words
import SpriteRenderer.Sprite.Wire

/-! # The grammar of the wire form

A stream is cut into records without reading it. Its vertices, and the first fault of a stream
that describes no sprite, are said of these records. The rules do not invoke the reader. -/

namespace SpriteRenderer.Wire

/-! ## Records -/

/-- The bytes of one vertex. A colour is left out inside a run. -/
structure Record where
  color : Option Color
  x : Single
  y : Single
  control : UInt8
deriving DecidableEq, Repr

namespace Record

def bytes (r : Record) : List UInt8 :=
  (r.color.map Color.toArgb).getD [] ++ Bytes.ofWord r.x.bits ++ Bytes.ofWord r.y.bits ++
    [r.control]

theorem length_bytes_pos (r : Record) : 0 < r.bytes.length := by simp [bytes]

end Record

/-- The record after these begins a run: it is the first one, or follows a control 1. -/
def runBegins (rs : List Record) : Bool := rs.getLast?.all (·.control = 1)

/-- How many runs the records end. -/
def runsEnded (rs : List Record) : Nat := rs.countP (·.control = 1)

/-- The colour that was read last. -/
def lastColor? (rs : List Record) : Option Color := (rs.filterMap (·.color)).getLast?

/-- Exactly the records that begin a run have a colour. -/
def Colored (rs : List Record) : Prop :=
  ∀ before r after, rs = before ++ r :: after → r.color.isSome = runBegins before

/-- No control of the records ends the section or is invalid, so that another record follows. -/
structure Continuing (rs : List Record) : Prop where
  colored : Colored rs
  controls : ∀ r ∈ rs, r.control = 0 ∨ r.control = 1
  runs : runsEnded rs ≤ 255

/-- All controls but the last are 0 or 1, at most 255 of them 1, and the last is 2. -/
structure VertexSection (rs : List Record) : Prop where
  colored : Colored rs
  controls : ∃ before last, rs = before ++ [last] ∧
    (∀ r ∈ before, r.control = 0 ∨ r.control = 1) ∧ last.control = 2
  runs : runsEnded rs ≤ 255

/-- What the records say: a vertex has the coordinates of its record, the colour that was read
last, and as its layer the number of runs that ended before it. -/
structure Means (rs : List Record) (vertices : List Vertex) : Prop where
  length : vertices.length = rs.length
  vertex : ∀ before r after, rs = before ++ r :: after → ∃ v, vertices[before.length]? = some v ∧
    v.x = r.x ∧ v.y = r.y ∧ lastColor? (before ++ [r]) = some v.color ∧
    v.layer.toNat = runsEnded before

/-- A stream: a vertex section, indices of its vertices, and up to three bytes that make no
index. -/
structure IsStream (bytes : List UInt8) (rs : List Record) (indices : List UInt32) : Prop where
  vertices : VertexSection rs
  bytes : ∃ rest, bytes = rs.flatMap Record.bytes ++ Bytes.ofWords indices ++ rest ∧
    rest.length ≤ 3
  inside : ∀ i ∈ indices, i.toNat < rs.length

/-! ## Faults -/

/-- The field of a record that its first `n` bytes end in, unless they hold all of it. A colour
that is left out counts as read. -/
def fieldAt? (withColor : Bool) (n : Nat) : Option WireField :=
  let read := if withColor then n else n + 4
  if read < 4 then some .color
  else if read < 8 then some .x
  else if read < 12 then some .y
  else if read < 13 then some .control
  else none

/-- The first fault of a stream, all of it before being in order. -/
inductive FirstFault (bytes : List UInt8) : GeometryFault → Prop where
  | truncated {before : List Record} {rest field} (goes : Continuing before)
      (cut : bytes = before.flatMap Record.bytes ++ rest)
      (ends : fieldAt? (runBegins before) rest.length = some field) :
      FirstFault bytes (.truncated field before.length)
  | invalidControl {before : List Record} {r : Record} {rest} (goes : Continuing before)
      (cut : bytes = before.flatMap Record.bytes ++ (r.bytes ++ rest))
      (colored : r.color.isSome = runBegins before)
      (invalid : r.control ≠ 0 ∧ r.control ≠ 1 ∧ r.control ≠ 2) :
      FirstFault bytes (.invalidControl r.control before.length)
  | tooManyRuns {before : List Record} {r : Record} {rest} (goes : Continuing before)
      (cut : bytes = before.flatMap Record.bytes ++ (r.bytes ++ rest))
      (colored : r.color.isSome = runBegins before) (newRun : r.control = 1)
      (full : runsEnded before = 255) : FirstFault bytes .tooManyRuns
  | indexOutOfRange {rs : List Record} {good i rest} (vertices : VertexSection rs)
      (cut : bytes = rs.flatMap Record.bytes ++ (Bytes.ofWords good ++ (Bytes.ofWord i ++ rest)))
      (inside : ∀ j ∈ good, j.toNat < rs.length) (stray : rs.length ≤ i.toNat) :
      FirstFault bytes (.indexOutOfRange i rs.length)

/-! ## What is known before a record -/

section

variable {before : List Record} {r : Record}

theorem runBegins_append : runBegins (before ++ [r]) = decide (r.control = 1) := by
  simp [runBegins]

theorem runsEnded_append :
    runsEnded (before ++ [r]) = runsEnded before + if r.control = 1 then 1 else 0 := by
  simp [runsEnded, List.countP_append, List.countP_singleton]

theorem toNat_ofNat_runsEnded {rs : List Record} (h : runsEnded rs ≤ 255) :
    (UInt8.ofNat (runsEnded rs)).toNat = runsEnded rs :=
  UInt8.toNat_ofNat_of_lt' (Nat.lt_succ_of_le h)

theorem lastColor?_append : lastColor? (before ++ [r]) = r.color.or (lastColor? before) := by
  cases h : r.color <;> simp [lastColor?, h]

namespace Colored

theorem nil : Colored [] := by
  rintro (_ | ⟨_, _⟩) r after h <;> cases h

theorem append (h : Colored before) (colored : r.color.isSome = runBegins before) :
    Colored (before ++ [r]) := by
  intro start q after cut
  rcases List.eq_nil_or_concat' after with rfl | ⟨after, last, rfl⟩
  · obtain ⟨rfl, ⟨⟩⟩ := List.append_inj' cut rfl
    exact colored
  · rw [← List.cons_append, ← List.append_assoc] at cut
    obtain ⟨rfl, -⟩ := List.append_inj' cut rfl
    exact h start q after rfl

theorem of_append {after : List Record} (h : Colored (before ++ after)) : Colored before := by
  rintro start q rest rfl
  exact h start q (rest ++ after) (by simp)

/-- Inside a run there is a colour to carry on. -/
theorem exists_lastColor (h : Colored before) (inside : runBegins before = false) :
    ∃ c, lastColor? before = some c := by
  cases before with
  | nil => simp [runBegins] at inside
  | cons first rest =>
      have colored : first.color.isSome = true := h [] first rest rfl
      obtain ⟨c, hc⟩ := Option.isSome_iff_exists.mp colored
      cases last : lastColor? (first :: rest) with
      | some c => exact ⟨c, rfl⟩
      | none => simp [lastColor?, hc] at last

end Colored

namespace Continuing

theorem nil : Continuing [] := ⟨.nil, by simp, by simp [runsEnded]⟩

theorem append (h : Continuing before) (colored : r.color.isSome = runBegins before)
    (control : r.control = 0 ∨ r.control = 1) (runs : runsEnded (before ++ [r]) ≤ 255) :
    Continuing (before ++ [r]) := by
  refine ⟨h.colored.append colored, fun q hq => ?_, runs⟩
  rcases List.mem_append.mp hq with hq | hq
  · exact h.controls q hq
  · rw [List.mem_singleton.mp hq]
    exact control

theorem of_append {after : List Record} (h : Continuing (before ++ after)) : Continuing before := by
  refine ⟨h.colored.of_append, fun q hq => h.controls q (List.mem_append_left after hq), ?_⟩
  have := h.runs
  rw [runsEnded, List.countP_append] at this
  rw [runsEnded]
  omega

end Continuing

end

/-! ## Every stream -/

/-- Bytes of a colour, or too few for one. -/
theorem short_or_color (bytes : List UInt8) :
    bytes.length < 4 ∨ ∃ (c : Color) (rest : List UInt8), bytes = c.toArgb ++ rest := by
  rcases bytes with _ | ⟨a, _ | ⟨r, _ | ⟨g, _ | ⟨b, rest⟩⟩⟩⟩
  · simp
  · simp
  · simp
  · simp
  · exact .inr ⟨.ofArgb a r g b, rest, rfl⟩

/-- Bytes that hold all of a record begin with one. -/
theorem exists_record {withColor : Bool} {rest : List UInt8}
    (whole : fieldAt? withColor rest.length = none) :
    ∃ (r : Record) (tail : List UInt8), r.color.isSome = withColor ∧ rest = r.bytes ++ tail := by
  have inRun (rest : List UInt8) (whole : fieldAt? false rest.length = none) :
      ∃ x y control tail, rest = Bytes.ofWord x ++ (Bytes.ofWord y ++ control :: tail) := by
    rcases Bytes.short_or_word rest with short | ⟨x, rest, rfl⟩
    · grind [fieldAt?]
    · rcases Bytes.short_or_word rest with short | ⟨y, rest, rfl⟩
      · grind [fieldAt?, Bytes.length_ofWord]
      · cases rest with
        | nil => grind [fieldAt?, Bytes.length_ofWord]
        | cons control tail => exact ⟨x, y, control, tail, rfl⟩
  cases withColor with
  | false =>
      obtain ⟨x, y, control, tail, rfl⟩ := inRun rest whole
      exact ⟨⟨none, ⟨x⟩, ⟨y⟩, control⟩, tail, rfl, by simp [Record.bytes]⟩
  | true =>
      rcases short_or_color rest with short | ⟨c, rest, rfl⟩
      · simp [fieldAt?, short] at whole
      · obtain ⟨x, y, control, tail, rfl⟩ :=
          inRun rest (by rw [← whole]; simp [fieldAt?, Color.toArgb])
        exact ⟨⟨some c, ⟨x⟩, ⟨y⟩, control⟩, tail, rfl, by simp [Record.bytes]⟩

/-- After records comes the rest of a vertex section, or a fault in it. -/
theorem section_or_fault {before : List Record} (goes : Continuing before) (rest : List UInt8) :
    (∃ rs tail, VertexSection rs ∧
      before.flatMap Record.bytes ++ rest = rs.flatMap Record.bytes ++ tail) ∨
    ∃ fault, FirstFault (before.flatMap Record.bytes ++ rest) fault := by
  induction h : rest.length using Nat.strongRecOn generalizing before rest with
  | ind n ih =>
      cases ends : fieldAt? (runBegins before) rest.length with
      | some field => exact .inr ⟨_, .truncated goes rfl ends⟩
      | none =>
          obtain ⟨r, tail, colored, rfl⟩ := exists_record ends
          have regroup : before.flatMap Record.bytes ++ (r.bytes ++ tail) =
              (before ++ [r]).flatMap Record.bytes ++ tail := by simp
          by_cases stop : r.control = 2
          · have runs : runsEnded (before ++ [r]) ≤ 255 := by
              rw [runsEnded_append, stop]
              exact goes.runs
            exact .inl ⟨before ++ [r], tail, ⟨goes.colored.append colored,
              ⟨before, r, rfl, goes.controls, stop⟩, runs⟩, regroup⟩
          by_cases control : r.control = 0 ∨ r.control = 1
          · by_cases runs : runsEnded (before ++ [r]) ≤ 255
            · have shorter : tail.length < n := by
                rw [← h, List.length_append]
                exact Nat.lt_add_of_pos_left r.length_bytes_pos
              rw [regroup]
              exact ih _ shorter (goes.append colored control runs) tail rfl
            · have before_runs := goes.runs
              have newRun : r.control = 1 := by
                refine control.resolve_left fun same => runs ?_
                rw [runsEnded_append, same]
                exact before_runs
              rw [runsEnded_append, if_pos newRun] at runs
              exact .inr ⟨_, .tooManyRuns goes rfl colored newRun (by omega)⟩
          · rw [not_or] at control
            exact .inr ⟨_, .invalidControl goes rfl colored ⟨control.1, control.2, stop⟩⟩

/-- Bytes are indices of vertices with up to three bytes after them, or name no vertex. -/
theorem indices_or_stray (n : Nat) (bytes : List UInt8) :
    ∃ good rest, bytes = Bytes.ofWords good ++ rest ∧ (∀ j ∈ good, j.toNat < n) ∧
      (rest.length ≤ 3 ∨ ∃ i tail, rest = Bytes.ofWord i ++ tail ∧ n ≤ i.toNat) := by
  induction h : bytes.length using Nat.strongRecOn generalizing bytes with
  | ind m ih =>
      rcases Bytes.short_or_word bytes with short | ⟨i, tail, rfl⟩
      · exact ⟨[], bytes, rfl, by simp, .inl short⟩
      · by_cases stray : n ≤ i.toNat
        · exact ⟨[], _, rfl, by simp, .inr ⟨i, tail, rfl, stray⟩⟩
        · have shorter : tail.length < m := by
            rw [← h, List.length_append, Bytes.length_ofWord]
            omega
          obtain ⟨good, rest, rfl, inside, ends⟩ := ih _ shorter tail rfl
          refine ⟨i :: good, rest, by simp, ?_, ends⟩
          simpa using ⟨Nat.lt_of_not_le stray, inside⟩

theorem stream_or_fault (bytes : List UInt8) :
    (∃ rs indices, IsStream bytes rs indices) ∨ ∃ fault, FirstFault bytes fault := by
  rcases section_or_fault .nil bytes with ⟨rs, tail, vertices, cut⟩ | fault
  · rw [List.flatMap_nil, List.nil_append] at cut
    obtain ⟨good, rest, rfl, inside, short | ⟨i, tail, rfl, stray⟩⟩ :=
      indices_or_stray rs.length tail
    · exact .inl ⟨rs, good, vertices, ⟨rest, by rw [cut, List.append_assoc], short⟩, inside⟩
    · exact .inr ⟨_, .indexOutOfRange vertices cut inside stray⟩
  · exact .inr fault

end SpriteRenderer.Wire
