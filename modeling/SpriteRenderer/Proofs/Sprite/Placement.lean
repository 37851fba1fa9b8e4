import Mathlib.Algebra.Ring.Nat
import Mathlib.Data.List.Induction
import SpriteRenderer.SpriteBuffer

/-! # Places of packed sprites

Three sums run over the sprites before one: of their vertices, which its indices are shifted by,
of their indices, where its own begin, and again of these, where the range table has it end. A
sprite keeps its geometry because the sums agree. -/

namespace SpriteRenderer

namespace PackedSprites

/-! ## Running sums -/

def vertexCount (sprites : List Sprite) : Nat := (sprites.map (·.vertices.length)).sum

def indexCount (sprites : List Sprite) : Nat := (sprites.map (·.indices.length)).sum

@[simp] theorem vertexCount_append (xs ys : List Sprite) :
    vertexCount (xs ++ ys) = vertexCount xs + vertexCount ys := by
  simp [vertexCount]

@[simp] theorem vertexCount_cons (s : Sprite) (sprites : List Sprite) :
    vertexCount (s :: sprites) = s.vertices.length + vertexCount sprites := rfl

@[simp] theorem indexCount_append (xs ys : List Sprite) :
    indexCount (xs ++ ys) = indexCount xs + indexCount ys := by
  simp [indexCount]

@[simp] theorem indexCount_cons (s : Sprite) (sprites : List Sprite) :
    indexCount (s :: sprites) = s.indices.length + indexCount sprites := rfl

theorem length_vertices (sprites : List Sprite) :
    (ofSprites sprites).vertices.length = vertexCount sprites := by
  simp [ofSprites, vertexCount, List.length_flatMap]

@[simp] theorem length_shiftedIndices (base : Nat) (sprites : List Sprite) :
    (shiftedIndices base sprites).length = indexCount sprites := by
  induction sprites generalizing base with
  | nil => rfl
  | cons s sprites ih => simp [shiftedIndices, ih]

/-! ## Sprites after others -/

theorem shiftedIndices_append (base : Nat) (xs ys : List Sprite) :
    shiftedIndices base (xs ++ ys) =
      shiftedIndices base xs ++ shiftedIndices (base + vertexCount xs) ys := by
  induction xs generalizing base with
  | nil => rfl
  | cons s xs ih =>
      have sums : base + s.vertices.length + vertexCount xs = base + vertexCount (s :: xs) := by
        rw [vertexCount_cons]
        omega
      rw [List.cons_append, shiftedIndices, shiftedIndices, ih, sums, List.append_assoc]

theorem rangeEnds_append (first : Nat) (xs ys : List Sprite) :
    rangeEnds first (xs ++ ys) = rangeEnds first xs ++ rangeEnds (first + indexCount xs) ys := by
  induction xs generalizing first with
  | nil => rfl
  | cons s xs ih =>
      have sums : first + s.indices.length + indexCount xs = first + indexCount (s :: xs) := by
        rw [indexCount_cons]
        omega
      rw [List.cons_append, rangeEnds, rangeEnds, ih, sums, List.cons_append]

theorem ranges_append_singleton (sprites : List Sprite) (s : Sprite) :
    (ofSprites (sprites ++ [s])).ranges =
      (ofSprites sprites).ranges ++ [.ofNat (indexCount (sprites ++ [s]))] := by
  simp [ofSprites, rangeEnds_append, rangeEnds, indexCount]

/-- A range begins where the indices of the sprites before it end. -/
theorem getElem?_ranges (before after : List Sprite) :
    (ofSprites (before ++ after)).ranges[before.length]? = some (.ofNat (indexCount before)) := by
  induction after using List.reverseRecOn with
  | nil =>
      cases before using List.reverseRecOn with
      | nil => rfl
      | append_singleton before s =>
          have length : (ofSprites before).ranges.length = before.length + 1 := by
            simp [ofSprites]
          rw [List.append_nil, ranges_append_singleton, List.length_append, List.length_singleton,
            ← length, List.getElem?_concat_length]
  | append_singleton after s ih =>
      have inside : before.length < (ofSprites (before ++ after)).ranges.length :=
        (List.getElem?_eq_some_iff.mp ih).1
      rw [← List.append_assoc, ranges_append_singleton, List.getElem?_append_left inside, ih]

theorem getElem?_indices (before after : List Sprite) (s : Sprite) {j : Nat} {i : UInt32}
    (found : s.indices[j]? = some i) :
    (ofSprites (before ++ s :: after)).indices[indexCount before + j]? =
      some (i + .ofNat (vertexCount before)) := by
  have inside : j < s.indices.length := (List.getElem?_eq_some_iff.mp found).1
  have past : (shiftedIndices 0 before).length ≤ indexCount before + j := by simp
  rw [ofSprites, shiftedIndices_append, List.getElem?_append_right past, length_shiftedIndices,
    Nat.add_sub_cancel_left, Nat.zero_add, shiftedIndices,
    List.getElem?_append_left (by simpa using inside), List.getElem?_map, found]
  rfl

theorem getElem?_vertices (before after : List Sprite) (s : Sprite) {i : Nat} {v : Vertex}
    (found : s.vertices[i]? = some v) :
    (ofSprites (before ++ s :: after)).vertices[vertexCount before + i]? =
      some (.ofVertex v) := by
  have inside : i < s.vertices.length := (List.getElem?_eq_some_iff.mp found).1
  have length : (before.flatMap (·.vertices.map PackedVertex.ofVertex)).length =
      vertexCount before := length_vertices before
  rw [ofSprites, List.flatMap_append, List.flatMap_cons,
    List.getElem?_append_right (by omega), length, Nat.add_sub_cancel_left,
    List.getElem?_append_left (by simpa using inside), List.getElem?_map, found]
  rfl

/-! ## Words

As long as the sums of all sprites are words, so are the sums on the way. -/

section

variable {before after : List Sprite}

theorem toNat_indexCount (fits : indexCount (before ++ after) < UInt32.size) :
    (UInt32.ofNat (indexCount before)).toNat = indexCount before := by
  rw [indexCount_append] at fits
  exact UInt32.toNat_ofNat_of_lt' (by omega)

theorem toNat_shifted {i : UInt32} {s : Sprite} (inside : i.toNat < s.vertices.length)
    (fits : vertexCount (before ++ s :: after) < UInt32.size) :
    (i + .ofNat (vertexCount before)).toNat = vertexCount before + i.toNat := by
  rw [vertexCount_append, vertexCount_cons] at fits
  have base : (UInt32.ofNat (vertexCount before)).toNat = vertexCount before :=
    UInt32.toNat_ofNat_of_lt' (by omega)
  have small : i.toNat + vertexCount before < 2 ^ 32 := by
    change _ < UInt32.size
    omega
  rw [UInt32.toNat_add, base, Nat.mod_eq_of_lt small, Nat.add_comm]

end

/-! ## Geometry -/

/-- The indices of a sprite, from position `first` of the packed ones on, name its own vertices. -/
def Draws (p : PackedSprites) (first : UInt32) (s : Sprite) : Prop :=
  ∀ j i, s.indices[j]? = some i → ∃ w v, p.indices[first.toNat + j]? = some w ∧
    w.toNat < p.vertices.length ∧ s.vertices[i.toNat]? = some v ∧
    p.vertices[w.toNat]? = some ⟨v.x, v.y, v.color.r, v.color.g, v.color.b, v.layer⟩

/-- The packed arrays hold every sprite, with its own range and its own vertices. -/
structure Holds (p : PackedSprites) (sprites : List Sprite) : Prop where
  vertices : p.vertices = sprites.flatMap fun s =>
    s.vertices.map fun v => ⟨v.x, v.y, v.color.r, v.color.g, v.color.b, v.layer⟩
  length_ranges : p.ranges.length = sprites.length + 1
  head : p.ranges.head? = some 0
  ascending : p.ranges.Pairwise (· ≤ ·)
  last : p.ranges.getLast?.map UInt32.toNat = some p.indices.length
  sprite : ∀ k s, sprites[k]? = some s → ∃ first last,
    p.ranges[k]? = some first ∧ p.ranges[k + 1]? = some last ∧
    last.toNat = first.toNat + s.indices.length ∧ p.Draws first s

theorem ofSprites_draws {before after : List Sprite} {s : Sprite}
    (inside : ∀ i ∈ s.indices, i.toNat < s.vertices.length)
    (vertices : vertexCount (before ++ s :: after) < UInt32.size)
    (indices : indexCount (before ++ s :: after) < UInt32.size) :
    (ofSprites (before ++ s :: after)).Draws (.ofNat (indexCount before)) s := by
  intro j i found
  have named : i.toNat < s.vertices.length := inside i (List.mem_of_getElem? found)
  have shifted := toNat_shifted named vertices
  have vertex : s.vertices[i.toNat]? = some s.vertices[i.toNat] := List.getElem?_eq_getElem named
  refine ⟨i + .ofNat (vertexCount before), s.vertices[i.toNat], ?_, ?_, vertex, ?_⟩
  · rw [toNat_indexCount indices]
    exact getElem?_indices before after s found
  · rw [shifted, length_vertices, vertexCount_append, vertexCount_cons]
    omega
  · rw [shifted]
    exact getElem?_vertices before after s vertex

/-- The table ascends to the number of all indices. -/
theorem ascending_ranges {sprites : List Sprite} (fits : indexCount sprites < UInt32.size) :
    (ofSprites sprites).ranges.Pairwise (· ≤ ·) ∧
      ∀ w ∈ (ofSprites sprites).ranges, w.toNat ≤ indexCount sprites := by
  induction sprites using List.reverseRecOn with
  | nil => simp [ofSprites, rangeEnds]
  | append_singleton sprites s ih =>
      have grows : indexCount sprites ≤ indexCount (sprites ++ [s]) := by simp
      have last : (UInt32.ofNat (indexCount (sprites ++ [s]))).toNat =
          indexCount (sprites ++ [s]) := UInt32.toNat_ofNat_of_lt' fits
      obtain ⟨ascending, bounded⟩ := ih (by omega)
      rw [ranges_append_singleton]
      refine ⟨List.pairwise_append.mpr ⟨ascending, List.pairwise_singleton _ _, ?_⟩, ?_⟩
      · intro a ha b hb
        rw [List.mem_singleton.mp hb, UInt32.le_iff_toNat_le, last]
        exact Nat.le_trans (bounded a ha) grows
      · intro w hw
        rcases List.mem_append.mp hw with old | new
        · exact Nat.le_trans (bounded w old) grows
        · rw [List.mem_singleton.mp new]
          exact Nat.le_of_eq last

/-- A sprite of a list stands between those before it and those after it. -/
theorem exists_split {sprites : List Sprite} {k : Nat} {s : Sprite}
    (found : sprites[k]? = some s) :
    ∃ before after, sprites = before ++ s :: after ∧ before.length = k := by
  obtain ⟨hk, rfl⟩ := List.getElem?_eq_some_iff.mp found
  refine ⟨sprites.take k, sprites.drop (k + 1), ?_, ?_⟩
  · rw [List.getElem_cons_drop, List.take_append_drop]
  · rw [List.length_take]
    omega

theorem holds_ofSprites {sprites : List Sprite}
    (inside : ∀ s ∈ sprites, ∀ i ∈ s.indices, i.toNat < s.vertices.length)
    (vertices : vertexCount sprites < UInt32.size) (indices : indexCount sprites < UInt32.size) :
    (ofSprites sprites).Holds sprites where
  vertices := rfl
  length_ranges := by simp [ofSprites]
  head := rfl
  ascending := (ascending_ranges indices).1
  last := by
    have length : (ofSprites sprites).ranges.length - 1 = sprites.length := by simp [ofSprites]
    have ends := getElem?_ranges sprites []
    rw [List.append_nil] at ends
    rw [List.getLast?_eq_getElem?, length, ends, Option.map_some,
      UInt32.toNat_ofNat_of_lt' indices]
    simp [ofSprites]
  sprite k s found := by
    obtain ⟨before, after, rfl, rfl⟩ := exists_split found
    have first := getElem?_ranges before (s :: after)
    have last := getElem?_ranges (before ++ [s]) after
    have sum : indexCount (before ++ [s]) = indexCount before + s.indices.length := by
      simp [indexCount]
    have again : before ++ [s] ++ after = before ++ s :: after := by simp
    rw [again, List.length_append, List.length_singleton] at last
    refine ⟨_, _, first, last, ?_, ofSprites_draws (inside s (by simp)) vertices indices⟩
    rw [toNat_indexCount indices, toNat_indexCount (again ▸ indices), sum]

end PackedSprites

/-! ## Ranges of a buffer -/

/-- A buffer knows the range of each sprite by its id, and no other id. A range ends no earlier
than it begins, and where it ends is looked up inside of the table. -/
structure SpriteBuffer.Lists (b : SpriteBuffer) (sprites : List Sprite) : Prop where
  known : ∀ id s, sprites[id]? = some s → ∃ first count, b.ranges[id]? = some first ∧
    b.indexRange? id = some (first, count) ∧ count.toNat = s.indices.length
  unknown : ∀ id, sprites.length ≤ id → b.indexRange? id = none
  next_le : ∀ id first, b.ranges[id]? = some first → id + 1 ≤ sprites.length + 1
  ordered : ∀ id first last, b.ranges[id]? = some first → b.ranges[id + 1]? = some last →
    first ≤ last

namespace PackedSprites

theorem Holds.lists {p : PackedSprites} {sprites : List Sprite} (h : p.Holds sprites)
    {b : SpriteBuffer} (table : b.ranges = p.ranges) : b.Lists sprites := by
  have ordered : ∀ id first last, b.ranges[id]? = some first → b.ranges[id + 1]? = some last →
      first ≤ last := by
    intro id first last begins ends
    rw [table] at begins ends
    obtain ⟨hid, rfl⟩ := List.getElem?_eq_some_iff.mp begins
    obtain ⟨hnext, rfl⟩ := List.getElem?_eq_some_iff.mp ends
    exact List.pairwise_iff_getElem.mp h.ascending id (id + 1) hid hnext (Nat.lt_succ_self id)
  refine ⟨fun id s found => ?_, fun id past => ?_, fun id first begins => ?_, ordered⟩
  · obtain ⟨first, last, begins, ends, count, -⟩ := h.sprite id s found
    rw [← table] at begins ends
    have range : b.indexRange? id = some (first, last - first) := by
      simp only [SpriteBuffer.indexRange?, begins, ends]
    refine ⟨first, last - first, begins, range, ?_⟩
    rw [UInt32.toNat_sub_of_le last first (ordered id first last begins ends), count,
      Nat.add_sub_cancel_left]
  · have missing : b.ranges[id + 1]? = none := by
      rw [table, List.getElem?_eq_none_iff, h.length_ranges]
      omega
    rw [SpriteBuffer.indexRange?, missing]
    cases b.ranges[id]? <;> rfl
  · rw [table] at begins
    obtain ⟨hid, -⟩ := List.getElem?_eq_some_iff.mp begins
    rw [h.length_ranges] at hid
    omega

/-- Packed sprites that were whole keep their own vertices, and a buffer of them tells each
range by the id of its sprite. -/
theorem packed_geometry {sprites : List Sprite}
    (inside : ∀ s ∈ sprites, ∀ i ∈ s.indices, i.toNat < s.vertices.length)
    (vertices : vertexCount sprites < UInt32.size) (indices : indexCount sprites < UInt32.size) :
    (ofSprites sprites).Holds sprites ∧
      ∀ b : SpriteBuffer, b.ranges = (ofSprites sprites).ranges → b.Lists sprites := by
  have holds := holds_ofSprites inside vertices indices
  exact ⟨holds, fun b table => holds.lists table⟩

/-- A sprite with more vertices than indices, one without indices, and one after them. -/
def unevenSprites : List Sprite :=
  [⟨[⟨⟨0x3F800000⟩, ⟨0⟩, .black, 0⟩, ⟨⟨0⟩, ⟨0⟩, .black, 0⟩], [1]⟩,
    ⟨[⟨⟨0x7FC00001⟩, ⟨0⟩, .white, 0⟩], []⟩,
    ⟨[⟨⟨0⟩, ⟨0⟩, .black, 0⟩, ⟨⟨0⟩, ⟨0x80000000⟩, .white, 1⟩], [1, 0, 1]⟩]

theorem packed_geometry_unevenSprites :
    (∀ s ∈ unevenSprites, ∀ i ∈ s.indices, i.toNat < s.vertices.length) ∧
      vertexCount unevenSprites < UInt32.size ∧ indexCount unevenSprites < UInt32.size ∧
      (ofSprites unevenSprites).Holds unevenSprites ∧
      (⟨1, 2, [0, 1, 1, 4], .static⟩ : SpriteBuffer).Lists unevenSprites := by
  have inside : ∀ s ∈ unevenSprites, ∀ i ∈ s.indices, i.toNat < s.vertices.length := by
    simp [unevenSprites]
  have vertices : vertexCount unevenSprites < UInt32.size := by decide
  have indices : indexCount unevenSprites < UInt32.size := by decide
  obtain ⟨holds, lists⟩ := packed_geometry inside vertices indices
  exact ⟨inside, vertices, indices, holds, lists _ (by decide)⟩

end PackedSprites

end SpriteRenderer
