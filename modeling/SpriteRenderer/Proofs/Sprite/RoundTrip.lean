import Mathlib.Data.List.Chain
import SpriteRenderer.Proofs.Sprite.Sections

/-! # Encoding and decoding sprites

The sprites made of runs are those that can be encoded. Decoding gives them back,
and what can be decoded is their encoding, less up to three bytes. -/

namespace SpriteRenderer

open Result Wire

/-! ## Sprites made of runs -/

/-- `next` is in the run of `v`, or begins the run after it. -/
def Vertex.Precedes (v next : Vertex) : Prop :=
  next.layer = v.layer ∧ next.color = v.color ∨ next.layer.toNat = v.layer.toNat + 1

theorem Vertex.precedes_iff {v next : Vertex} (n : Nat) :
    v.Precedes next ↔ ∃ control, controlBetween n v next = .ok control := by
  unfold Vertex.Precedes controlBetween
  by_cases layers : next.layer = v.layer
  · by_cases colors : next.color = v.color
    · simp [layers, colors]
    · simp [layers, colors]
  · by_cases apart : next.layer.toNat = v.layer.toNat + 1
    · simp [layers, apart]
    · simp [layers, apart]

namespace Sprite

/-- The vertices form runs from the lowest layer up, and the indices name vertices. -/
structure Encodable (s : Sprite) : Prop where
  hasVertex : s.vertices ≠ []
  ground : ∀ v ∈ s.vertices.head?, v.layer = 0
  runs : s.vertices.IsChain Vertex.Precedes
  inside : ∀ i ∈ s.indices, i.toNat < s.vertices.length

end Sprite

theorem Wire.vertexSection_isOk_iff {n : Nat} {withColor : Bool} {vertices : List Vertex} :
    (∃ b, vertexSection n withColor vertices = .ok b) ↔ vertices.IsChain Vertex.Precedes := by
  induction vertices generalizing n withColor with
  | nil => simp [vertexSection]
  | cons v vs ih =>
      cases vs with
      | nil => simp [vertexSection]
      | cons next vs =>
          rw [List.isChain_cons_cons, Vertex.precedes_iff (n + 1)]
          constructor
          · intro h
            obtain ⟨b, whole⟩ := h
            obtain ⟨control, tail, chosen, written, rfl⟩ :=
              vertexSection_cons_cons_eq_ok_iff.mp whole
            exact ⟨⟨control, chosen⟩, ih.mp ⟨tail, written⟩⟩
          · intro h
            obtain ⟨⟨control, chosen⟩, chain⟩ := h
            have later : ∃ tail,
                vertexSection (n + 1) (control = .newRun) (next :: vs) = .ok tail := ih.mpr chain
            obtain ⟨tail, written⟩ := later
            exact ⟨_, vertexSection_cons_cons_eq_ok_iff.mpr ⟨control, tail, chosen, written, rfl⟩⟩

namespace Sprite

theorem encode_eq_ok_iff {s : Sprite} {b : List UInt8} :
    s.encode = .ok b ↔ spriteBytes s = .ok b := mapError_eq_ok_iff

/-- The sprite that bytes describe is the one that they begin with the encoding of. -/
theorem decode_eq_ok_iff {s : Sprite} {b : List UInt8} :
    decode b = .ok s ↔ ∃ written r, s.encode = .ok written ∧ b = written ++ r ∧ r.length ≤ 3 := by
  simp only [encode_eq_ok_iff]
  exact mapError_eq_ok_iff.trans takeSprite_eq_ok_iff

theorem encode_isOk_iff {s : Sprite} : (∃ b, s.encode = .ok b) ↔ s.Encodable := by
  simp only [encode_eq_ok_iff, spriteBytes_eq_ok_iff]
  constructor
  · intro h
    obtain ⟨_, ⟨v, vs, begins, ground⟩, inside, b, written, rfl⟩ := h
    exact ⟨by simp [begins], by simp [begins, ground],
      vertexSection_isOk_iff.mp ⟨b, written⟩, inside⟩
  · intro h
    obtain ⟨hasVertex, ground, runs, inside⟩ := h
    obtain ⟨v, vs, begins⟩ := List.exists_cons_of_ne_nil hasVertex
    have vertices : ∃ b, vertexSection 0 true s.vertices = .ok b :=
      vertexSection_isOk_iff.mpr runs
    obtain ⟨b, written⟩ := vertices
    exact ⟨_, ⟨v, vs, begins, ground v (by simp [begins])⟩, inside, b, written, rfl⟩

/-! ## The round trips -/

/-- The sprites made of runs can be encoded, no other, and decoding gives them back. -/
theorem decode_encode (s : Sprite) :
    ((∃ b, s.encode = .ok b) ↔ s.Encodable) ∧
      ∀ b, s.encode = .ok b → decode b = .ok s := by
  refine ⟨encode_isOk_iff, fun b written => ?_⟩
  exact decode_eq_ok_iff.mpr ⟨b, [], written, by simp, by simp⟩

/-- Three vertices in two runs of one colour, one coordinate not a number. -/
def twoRuns : Sprite where
  vertices :=
    [⟨⟨0x3F800000⟩, ⟨0x7FC00001⟩, ⟨1, 2, 3, 4⟩, 0⟩, ⟨⟨0⟩, ⟨0x80000000⟩, ⟨1, 2, 3, 4⟩, 0⟩,
      ⟨⟨0⟩, ⟨0⟩, ⟨1, 2, 3, 4⟩, 1⟩]
  indices := [0, 2, 1]

def twoRunsBytes : List UInt8 :=
  [4, 1, 2, 3, 0, 0, 0x80, 0x3F, 1, 0, 0xC0, 0x7F, 0, 0, 0, 0, 0, 0, 0, 0, 0x80, 1,
    4, 1, 2, 3, 0, 0, 0, 0, 0, 0, 0, 0, 2, 0, 0, 0, 0, 2, 0, 0, 0, 1, 0, 0, 0]

theorem decode_encode_twoRuns :
    twoRuns.encode = .ok twoRunsBytes ∧ decode twoRunsBytes = .ok twoRuns := by
  have encoded : twoRuns.encode = .ok twoRunsBytes := rfl
  exact ⟨encoded, (decode_encode twoRuns).2 twoRunsBytes encoded⟩

/-- What can be decoded is an encoding with up to three bytes after it, so that bytes of
the same sprite differ in these only. -/
theorem encode_decode (b : List UInt8) (s : Sprite) (h : decode b = .ok s) :
    (∃ written r, s.encode = .ok written ∧ b = written ++ r ∧ r.length ≤ 3) ∧
      ∀ b', decode b' = .ok s → ∃ written r r',
        b = written ++ r ∧ b' = written ++ r' ∧ r.length ≤ 3 ∧ r'.length ≤ 3 := by
  obtain ⟨written, r, encoded, rfl, short⟩ := decode_eq_ok_iff.mp h
  refine ⟨⟨written, r, encoded, rfl, short⟩, fun b' h' => ?_⟩
  obtain ⟨written', r', encoded', rfl, short'⟩ := decode_eq_ok_iff.mp h'
  rw [encoded] at encoded'
  cases encoded'
  exact ⟨written, r, r', rfl, rfl, short, short'⟩

theorem encode_decode_twoRuns :
    decode (twoRunsBytes ++ [7, 7]) = .ok twoRuns ∧
      ∃ written r, twoRuns.encode = .ok written ∧ twoRunsBytes ++ [7, 7] = written ++ r ∧
        r.length ≤ 3 := by
  have decoded : decode (twoRunsBytes ++ [7, 7]) = .ok twoRuns := by
    decide +kernel
  exact ⟨decoded, (encode_decode _ twoRuns decoded).1⟩

end Sprite

end SpriteRenderer
