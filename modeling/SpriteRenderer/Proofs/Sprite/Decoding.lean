import Mathlib.Data.Finset.Card
import Mathlib.Data.Finset.Dedup
import SpriteRenderer.Proofs.Sprite.Grammar
import SpriteRenderer.Proofs.Sprite.RoundTrip

/-! # What is decoded

The reader accepts the streams of the grammar, gives each its meaning, and names the first fault
of every other. -/

namespace SpriteRenderer

namespace Wire

open Result

/-! ## Reading a record -/

/-- The vertex that a record stands for, after others. -/
def vertexAfter (before : List Record) (r : Record) : Vertex :=
  ⟨r.x, r.y, (lastColor? (before ++ [r])).getD .black, .ofNat (runsEnded before)⟩

/-- The colour that is carried on. -/
def carriedAfter (before : List Record) : Option Color :=
  if runBegins before then none else lastColor? before

/-- Reads the vertices that follow records. -/
def takeFollowing (before : List Record) (bytes : List UInt8) :
    Except GeometryFault (List Vertex × List UInt8) :=
  takeVertices before.length (.ofNat (runsEnded before)) (carriedAfter before) bytes

theorem isNone_carriedAfter {before : List Record} (h : Colored before) :
    (carriedAfter before).isNone = runBegins before := by
  cases begins : runBegins before with
  | true => simp [carriedAfter, begins]
  | false =>
      obtain ⟨c, hc⟩ := h.exists_lastColor begins
      simp [carriedAfter, begins, hc]

/-- The bytes of a record are those of its vertex, with its control. -/
theorem record_bytes_eq {before : List Record} {r : Record} (h : Colored before)
    (colored : r.color.isSome = runBegins before) :
    (∀ c ∈ carriedAfter before, (vertexAfter before r).color = c) ∧
      r.bytes = vertexBytes (carriedAfter before).isNone (vertexAfter before r) ++ [r.control] := by
  rw [isNone_carriedAfter h]
  cases begins : runBegins before with
  | true =>
      rw [begins] at colored
      obtain ⟨c, hc⟩ := Option.isSome_iff_exists.mp colored
      simp [carriedAfter, begins, Record.bytes, vertexBytes, vertexAfter, lastColor?_append, hc]
  | false =>
      rw [begins] at colored
      obtain ⟨c, hc⟩ := h.exists_lastColor begins
      have none : r.color = none := by simpa using colored
      simp [carriedAfter, begins, Record.bytes, vertexBytes, vertexAfter, lastColor?_append, none,
        hc]

theorem takeRecord_append {before : List Record} {r : Record} (h : Colored before)
    (colored : r.color.isSome = runBegins before) (rest : List UInt8) :
    takeRecord before.length (carriedAfter before) (r.bytes ++ rest) =
      .ok (⟨(vertexAfter before r).color, r.x, r.y, r.control⟩, rest) := by
  obtain ⟨known, bytes⟩ := record_bytes_eq h colored
  exact (takeRecord_eq_ok_iff (v := vertexAfter before r)).mpr ⟨known, by simp [bytes]⟩

section

variable {before : List Record} {r : Record}

/-- One step of the reader. -/
theorem takeFollowing_append (h : Colored before) (colored : r.color.isSome = runBegins before)
    (rest : List UInt8) :
    takeFollowing before (r.bytes ++ rest) =
      match Control.ofByte? r.control with
      | none => .error (.invalidControl r.control before.length)
      | some control => do
        let (vertices, rest) ← takeAfter before.length (.ofNat (runsEnded before))
          (vertexAfter before r).color rest control
        return (vertexAfter before r :: vertices, rest) := by
  rw [takeFollowing, takeVertices_eq, takeRecord_append h colored]
  rfl

theorem takeFollowing_invalid (h : Colored before) (colored : r.color.isSome = runBegins before)
    (invalid : r.control ≠ 0 ∧ r.control ≠ 1 ∧ r.control ≠ 2) (rest : List UInt8) :
    takeFollowing before (r.bytes ++ rest) =
      .error (.invalidControl r.control before.length) := by
  have none : Control.ofByte? r.control = none := by
    cases known : Control.ofByte? r.control with
    | none => rfl
    | some control =>
        rw [Control.ofByte?_eq_some_iff] at known
        cases control with
        | same => exact absurd known invalid.1
        | newRun => exact absurd known invalid.2.1
        | stop => exact absurd known invalid.2.2
  rw [takeFollowing_append h colored, none]

theorem takeFollowing_stop (h : Colored before) (colored : r.color.isSome = runBegins before)
    (last : r.control = 2) (rest : List UInt8) :
    takeFollowing before (r.bytes ++ rest) = .ok ([vertexAfter before r], rest) := by
  rw [takeFollowing_append h colored, last]
  rfl

theorem takeFollowing_full (h : Colored before) (colored : r.color.isSome = runBegins before)
    (newRun : r.control = 1) (full : runsEnded before = 255) (rest : List UInt8) :
    takeFollowing before (r.bytes ++ rest) = .error .tooManyRuns := by
  rw [takeFollowing_append h colored, newRun, full]
  rfl

/-- What is carried on after a record is known from the records. -/
theorem takeFollowing_goesOn (h : Continuing (before ++ [r])) (rest : List UInt8) :
    takeFollowing before (r.bytes ++ rest) = (takeFollowing (before ++ [r]) rest).map
      fun read => (vertexAfter before r :: read.1, read.2) := by
  have colored : r.color.isSome = runBegins before := h.colored before r [] rfl
  rw [takeFollowing_append h.of_append.colored colored, takeFollowing, carriedAfter,
    runBegins_append, runsEnded_append, List.length_append, List.length_singleton]
  rcases h.controls r (by simp) with same | newRun
  · have carried : lastColor? (before ++ [r]) = some (vertexAfter before r).color := by
      obtain ⟨c, hc⟩ := h.colored.exists_lastColor (by rw [runBegins_append, same]; rfl)
      simp [vertexAfter, hc]
    rw [same, carried]
    simp [Control.ofByte?, takeAfter, bind, Except.bind, pure, Except.pure, Except.map]
  · have room : runsEnded before ≠ 255 := by
      have := h.runs
      rw [runsEnded_append, if_pos newRun] at this
      omega
    have apart : UInt8.ofNat (runsEnded before) ≠ 255 := by
      intro same
      have := congrArg UInt8.toNat same
      rw [toNat_ofNat_runsEnded h.of_append.runs] at this
      exact room this
    rw [newRun]
    simp [Control.ofByte?, takeAfter, apart, bind, Except.bind, pure, Except.pure, Except.map]

end

/-! ## Reading a part of a record -/

theorem takeColor_of_short {n : Nat} {bytes : List UInt8} (short : bytes.length < 4) :
    takeColor n bytes = .error (.truncated .color n) := by
  unfold takeColor
  split
  · simp only [List.length_cons] at short
    omega
  · rfl

theorem takeSingle_of_short {field : WireField} {n : Nat} {bytes : List UInt8}
    (short : bytes.length < 4) : takeSingle field n bytes = .error (.truncated field n) := by
  unfold takeSingle
  split
  · simp only [List.length_cons] at short
    omega
  · rfl

theorem takeSingle_ofWord (field : WireField) (n : Nat) (w : UInt32) (rest : List UInt8) :
    takeSingle field n (Bytes.ofWord w ++ rest) = .ok (⟨w⟩, rest) :=
  takeSingle_eq_ok_iff.mpr rfl

/-- Once its colour is known, a record is read as inside a run. -/
theorem takeRecord_toArgb (n : Nat) (c : Color) (rest : List UInt8) :
    takeRecord n none (c.toArgb ++ rest) = takeRecord n (some c) rest := by
  have read : takeColor n (c.toArgb ++ rest) = .ok (c, rest) := takeColor_eq_ok_iff.mpr rfl
  simp [takeRecord, read, bind, Except.bind]

theorem takeRecord_truncated_run (n : Nat) (c : Color) {rest : List UInt8} {field : WireField}
    (ends : fieldAt? false rest.length = some field) :
    takeRecord n (some c) rest = .error (.truncated field n) := by
  rcases Bytes.short_or_word rest with short | ⟨x, rest, rfl⟩
  · have here : field = .x := by grind [fieldAt?]
    simp [takeRecord, takeSingle_of_short (Nat.lt_succ_of_le short), bind, Except.bind, here]
  · rcases Bytes.short_or_word rest with short | ⟨y, rest, rfl⟩
    · have here : field = .y := by grind [fieldAt?, Bytes.length_ofWord]
      simp [takeRecord, takeSingle_ofWord, takeSingle_of_short (Nat.lt_succ_of_le short), bind,
        Except.bind, here]
    · have none_left : rest = [] := by
        apply List.length_eq_zero_iff.mp
        grind [fieldAt?, Bytes.length_ofWord]
      have here : field = .control := by grind [fieldAt?, Bytes.length_ofWord]
      have noControl : takeControl n [] = .error (.truncated .control n) := rfl
      rw [none_left, here]
      simp only [takeRecord, takeSingle_ofWord, noControl, bind, Except.bind]

theorem takeRecord_truncated {n : Nat} {carried : Option Color} {rest : List UInt8}
    {field : WireField} (ends : fieldAt? carried.isNone rest.length = some field) :
    takeRecord n carried rest = .error (.truncated field n) := by
  cases carried with
  | some c => exact takeRecord_truncated_run n c ends
  | none =>
      rcases short_or_color rest with short | ⟨c, rest, rfl⟩
      · have here : field = .color := by
          simpa [fieldAt?, short] using ends.symm
        simp [takeRecord, takeColor_of_short short, bind, Except.bind, here]
      · rw [takeRecord_toArgb]
        refine takeRecord_truncated_run n c ?_
        rw [← ends]
        simp [fieldAt?, Color.toArgb]

/-! ## Reading records -/

/-- The vertices that records stand for, after others. -/
def verticesAfter (before : List Record) : List Record → List Vertex
  | [] => []
  | r :: rs => vertexAfter before r :: verticesAfter (before ++ [r]) rs

theorem takeFollowing_flatMap {before rs : List Record} (h : Continuing (before ++ rs))
    (rest : List UInt8) :
    takeFollowing before (rs.flatMap Record.bytes ++ rest) =
      (takeFollowing (before ++ rs) rest).map
        fun read => (verticesAfter before rs ++ read.1, read.2) := by
  induction rs generalizing before with
  | nil =>
      rw [List.flatMap_nil, List.nil_append, List.append_nil]
      cases takeFollowing before rest <;> rfl
  | cons r rs ih =>
      rw [List.append_cons] at h
      rw [List.flatMap_cons, List.append_assoc, takeFollowing_goesOn h.of_append, ih h,
        List.append_cons before r rs]
      cases takeFollowing (before ++ [r] ++ rs) rest <;> rfl

theorem length_verticesAfter (before rs : List Record) :
    (verticesAfter before rs).length = rs.length := by
  induction rs generalizing before with
  | nil => rfl
  | cons r rs ih => rw [verticesAfter, List.length_cons, ih, List.length_cons]

theorem verticesAfter_append (before rs more : List Record) :
    verticesAfter before (rs ++ more) =
      verticesAfter before rs ++ verticesAfter (before ++ rs) more := by
  induction rs generalizing before with
  | nil => simp [verticesAfter]
  | cons r rs ih => simp [verticesAfter, ih]

/-- The vertices say what their records say. -/
theorem means_verticesAfter {rs : List Record} (colored : Colored rs)
    (runs : runsEnded rs ≤ 255) : Means rs (verticesAfter [] rs) := by
  refine ⟨length_verticesAfter [] rs, ?_⟩
  rintro before r after rfl
  refine ⟨vertexAfter before r, ?_, rfl, rfl, ?_, ?_⟩
  · rw [verticesAfter_append, List.getElem?_append_right (by rw [length_verticesAfter]),
      length_verticesAfter, Nat.sub_self]
    rfl
  · have known : ∃ c, lastColor? (before ++ [r]) = some c := by
      rw [lastColor?_append]
      cases own : r.color with
      | some c => exact ⟨c, rfl⟩
      | none =>
          have inside : runBegins before = false := by
            rw [← colored before r after rfl, own]
            rfl
          exact colored.of_append.exists_lastColor inside
    obtain ⟨c, hc⟩ := known
    simp [vertexAfter, hc]
  · rw [runsEnded, List.countP_append] at runs
    exact toNat_ofNat_runsEnded (by rw [runsEnded]; omega)

theorem takeVertices_of_section {rs : List Record} (h : VertexSection rs) (rest : List UInt8) :
    takeVertices 0 0 none (rs.flatMap Record.bytes ++ rest) = .ok (verticesAfter [] rs, rest) := by
  obtain ⟨before, last, rfl, controls, stop⟩ := h.controls
  have goes : Continuing ([] ++ before) := by
    refine ⟨h.colored.of_append, controls, ?_⟩
    have := h.runs
    rw [runsEnded_append] at this
    exact Nat.le_of_add_right_le this
  have colored : last.color.isSome = runBegins before := h.colored before last [] rfl
  have read := takeFollowing_flatMap goes (last.bytes ++ rest)
  rw [List.nil_append] at goes read
  rw [takeFollowing_stop goes.colored colored stop] at read
  have start : takeVertices 0 0 none = takeFollowing [] := rfl
  rw [start, List.flatMap_append, List.flatMap_singleton, List.append_assoc, read,
    verticesAfter_append]
  rfl

theorem takeFollowing_truncated {before : List Record} {rest : List UInt8} {field : WireField}
    (h : Colored before) (ends : fieldAt? (runBegins before) rest.length = some field) :
    takeFollowing before rest = .error (.truncated field before.length) := by
  rw [← isNone_carriedAfter h] at ends
  rw [takeFollowing, takeVertices_eq, takeRecord_truncated ends]
  rfl

/-! ## Reading indices -/

theorem takeIndices_ofWords_append {n : Nat} {good : List UInt32}
    (inside : ∀ j ∈ good, j.toNat < n) (rest : List UInt8) :
    takeIndices n (Bytes.ofWords good ++ rest) = (takeIndices n rest).map (good ++ ·) := by
  induction good with
  | nil =>
      have none : Bytes.ofWords [] ++ rest = rest := rfl
      rw [none]
      cases takeIndices n rest <;> rfl
  | cons i good ih =>
      have below : ¬ n ≤ i.toNat := Nat.not_le_of_lt (inside i (by simp))
      rw [Bytes.ofWords_cons, List.append_assoc, takeIndices_ofWord_append, if_neg below,
        ih fun j hj => inside j (List.mem_cons_of_mem i hj)]
      cases takeIndices n rest <;> rfl

/-! ## Reading a stream -/

theorem takeSprite_of_section {rs : List Record} (h : VertexSection rs) (rest : List UInt8) :
    takeSprite (rs.flatMap Record.bytes ++ rest) =
      (takeIndices rs.length rest).map (⟨verticesAfter [] rs, ·⟩) := by
  rw [takeSprite, takeVertices_of_section h rest]
  simp only [bind, Except.bind, length_verticesAfter]
  cases takeIndices rs.length rest <;> rfl

theorem takeSprite_of_stream {bytes : List UInt8} {rs : List Record} {indices : List UInt32}
    (h : IsStream bytes rs indices) : takeSprite bytes = .ok ⟨verticesAfter [] rs, indices⟩ := by
  obtain ⟨rest, rfl, short⟩ := h.bytes
  rw [List.append_assoc, takeSprite_of_section h.vertices, takeIndices_ofWords_append h.inside,
    takeIndices_of_length_le short]
  simp [Except.map]

/-- A fault in the section is found after the records before it. -/
theorem takeSprite_of_takeFollowing {before : List Record} {rest : List UInt8}
    {fault : GeometryFault} (goes : Continuing before)
    (found : takeFollowing before rest = .error fault) :
    takeSprite (before.flatMap Record.bytes ++ rest) = .error fault := by
  have read := @takeFollowing_flatMap [] before goes rest
  rw [List.nil_append, found] at read
  have start : takeVertices 0 0 none = takeFollowing [] := rfl
  rw [takeSprite, start, read]
  rfl

theorem takeSprite_of_fault {bytes : List UInt8} {fault : GeometryFault}
    (h : FirstFault bytes fault) : takeSprite bytes = .error fault := by
  cases h with
  | truncated goes cut ends =>
      subst cut
      exact takeSprite_of_takeFollowing goes (takeFollowing_truncated goes.colored ends)
  | invalidControl goes cut colored invalid =>
      subst cut
      exact takeSprite_of_takeFollowing goes (takeFollowing_invalid goes.colored colored invalid _)
  | tooManyRuns goes cut colored newRun full =>
      subst cut
      exact takeSprite_of_takeFollowing goes
        (takeFollowing_full goes.colored colored newRun full _)
  | @indexOutOfRange rs good i rest vertices cut inside stray =>
      subst cut
      rw [takeSprite_of_section vertices, takeIndices_ofWords_append inside,
        takeIndices_ofWord_append, if_pos stray]
      rfl

end Wire

namespace Sprite

open Result Wire

/-! ## Layers -/

/-- Runs are on every layer from the first to the last. -/
theorem mem_layers_iff {v last : Vertex} {vs : List Vertex}
    (runs : (v :: vs).IsChain Vertex.Precedes) (ends : (v :: vs).getLast? = some last) {n : Nat} :
    n ∈ (v :: vs).map (·.layer.toNat) ↔ v.layer.toNat ≤ n ∧ n ≤ last.layer.toNat := by
  induction vs generalizing v n with
  | nil =>
      obtain rfl : v = last := by simpa using ends
      simp
      omega
  | cons next vs ih =>
      obtain ⟨step, runs⟩ := List.isChain_cons_cons.mp runs
      rw [List.getLast?_cons_cons] at ends
      have upward : next.layer.toNat ≤ last.layer.toNat := ((ih runs ends).mp (by simp)).2
      rw [List.map_cons, List.mem_cons, ih runs ends]
      rcases step with ⟨layers, -⟩ | layers
      · rw [layers] at upward ⊢
        omega
      · omega

theorem Encodable.layerCount_eq {s : Sprite} (h : s.Encodable) :
    s.layerCount = (s.vertices.map (·.layer)).toFinset.card := by
  obtain ⟨vertices, indices⟩ := s
  obtain ⟨v, vs, rfl⟩ := List.exists_cons_of_ne_nil h.hasVertex
  have ground : v.layer = 0 := h.ground v (by simp)
  have ends : (v :: vs).getLast? = some ((v :: vs).getLast (by simp)) :=
    List.getLast?_eq_some_getLast (by simp)
  have layers : ((v :: vs).map (·.layer)).toFinset.image UInt8.toNat =
      Finset.range (((v :: vs).getLast (by simp)).layer.toNat + 1) := by
    ext n
    have mem := mem_layers_iff h.runs ends (n := n)
    rw [ground, List.mem_map] at mem
    simp only [Finset.mem_image, List.mem_toFinset, List.mem_map, exists_exists_and_eq_and]
    rw [Finset.mem_range, Nat.lt_succ_iff]
    exact mem.trans (and_iff_right (Nat.zero_le n))
  rw [← Finset.card_image_of_injective _ fun _ _ => UInt8.toNat_inj.mp, layers, Finset.card_range]
  simp [layerCount, ends]

/-! ## The grammar -/

/-- The streams of the grammar are decoded, and no other bytes. The sprite has the vertices that
the records mean, the indices, and as many layers as its vertices are on. Other bytes are refused
with their first fault. -/
theorem decode_grammar (b : List UInt8) :
    ((∃ s, decode b = .ok s) ↔ ∃ rs indices, IsStream b rs indices) ∧
    (∀ s rs indices, decode b = .ok s → IsStream b rs indices →
      Means rs s.vertices ∧ s.indices = indices ∧
        s.layerCount = (s.vertices.map (·.layer)).toFinset.card) ∧
    ∀ e, decode b = .error e ↔ ∃ fault, FirstFault b fault ∧ e = .malformedGeometry fault := by
  have accepts {rs indices} (h : IsStream b rs indices) :
      decode b = .ok ⟨verticesAfter [] rs, indices⟩ :=
    mapError_eq_ok_iff.mpr (takeSprite_of_stream h)
  have refuses {fault} (h : FirstFault b fault) : decode b = .error (.malformedGeometry fault) := by
    rw [decode, takeSprite_of_fault h]
    rfl
  refine ⟨⟨?_, ?_⟩, ?_, fun e => ⟨?_, ?_⟩⟩
  · rintro ⟨s, decoded⟩
    rcases stream_or_fault b with stream | ⟨fault, h⟩
    · exact stream
    · rw [refuses h] at decoded
      cases decoded
  · rintro ⟨rs, indices, h⟩
    exact ⟨_, accepts h⟩
  · intro s rs indices decoded h
    obtain ⟨written, r, encoded, -⟩ := decode_eq_ok_iff.mp decoded
    have layers := (encode_isOk_iff.mp ⟨written, encoded⟩).layerCount_eq
    rw [accepts h] at decoded
    cases decoded
    exact ⟨means_verticesAfter h.vertices.colored h.vertices.runs, rfl, layers⟩
  · intro refused
    rcases stream_or_fault b with ⟨rs, indices, h⟩ | ⟨fault, h⟩
    · rw [accepts h] at refused
      cases refused
    · rw [refuses h] at refused
      cases refused
      exact ⟨fault, h, rfl⟩
  · rintro ⟨fault, h, rfl⟩
    exact refuses h

/-- The stream of two runs with two bytes after it, and its first 31 bytes. -/
theorem decode_grammar_twoRuns :
    (∃ rs, IsStream (twoRunsBytes ++ [7, 7]) rs twoRuns.indices ∧ Means rs twoRuns.vertices) ∧
      twoRuns.layerCount = (twoRuns.vertices.map (·.layer)).toFinset.card ∧
      FirstFault (twoRunsBytes.take 31) (.truncated .y 2) := by
  obtain ⟨accepted, meaning, -⟩ := decode_grammar (twoRunsBytes ++ [7, 7])
  obtain ⟨-, -, refused⟩ := decode_grammar (twoRunsBytes.take 31)
  have decoded : decode (twoRunsBytes ++ [7, 7]) = .ok twoRuns := by decide +kernel
  have cut : decode (twoRunsBytes.take 31) = .error (.malformedGeometry (.truncated .y 2)) := by
    decide +kernel
  obtain ⟨rs, indices, stream⟩ := accepted.mp ⟨twoRuns, decoded⟩
  obtain ⟨means, rfl, layers⟩ := meaning twoRuns rs indices decoded stream
  obtain ⟨fault, first, ⟨⟩⟩ := (refused _).mp cut
  exact ⟨⟨rs, stream, means⟩, layers, first⟩

end Sprite

end SpriteRenderer
