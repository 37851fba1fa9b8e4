import SpriteRenderer.Proofs.Buffer.Layout
import SpriteRenderer.Proofs.Sprite.Placement

/-! # Sprites packed behind others

Sprites that are packed behind others get the same arrays as alone, further on. What is packed
before them stays where it is, so that its ranges and bytes can still be used. -/

namespace SpriteRenderer

namespace PackedSprites

/-! ## Two running offsets -/

/-- What stands before the sprites only adds to the shift. -/
theorem shiftedIndices_add (base n : Nat) (sprites : List Sprite) :
    shiftedIndices (base + n) sprites = (shiftedIndices n sprites).map (· + .ofNat base) := by
  induction sprites generalizing n with
  | nil => rfl
  | cons s sprites ih =>
      have shift : (fun i : UInt32 => i + .ofNat (base + n)) =
          (· + .ofNat base) ∘ (· + .ofNat n) := by
        funext i
        rw [UInt32.ofNat_add, Function.comp_apply, UInt32.add_assoc,
          UInt32.add_comm (.ofNat base)]
      rw [shiftedIndices, shiftedIndices, List.map_append, List.map_map, ← shift, ← ih,
        Nat.add_assoc]

theorem rangeEnds_add (first n : Nat) (sprites : List Sprite) :
    rangeEnds (first + n) sprites = (rangeEnds n sprites).map (· + .ofNat first) := by
  induction sprites generalizing n with
  | nil => rfl
  | cons s sprites ih =>
      rw [rangeEnds, rangeEnds, List.map_cons, ← ih, Nat.add_assoc, ← UInt32.ofNat_add,
        Nat.add_comm first]

/-- The sprites `ys` are packed behind the sprites `xs`. -/
structure Appended (xs ys : List Sprite) : Prop where
  vertices : (ofSprites (xs ++ ys)).vertices = (ofSprites xs).vertices ++ (ofSprites ys).vertices
  indices : (ofSprites (xs ++ ys)).indices =
    (ofSprites xs).indices ++ (ofSprites ys).indices.map (· + .ofNat (vertexCount xs))
  ranges : (ofSprites (xs ++ ys)).ranges =
    (ofSprites xs).ranges ++ (ofSprites ys).ranges.tail.map (· + .ofNat (indexCount xs))

theorem appended (xs ys : List Sprite) : Appended xs ys where
  vertices := List.flatMap_append
  indices := by
    simp only [ofSprites, shiftedIndices_append]
    rw [Nat.add_comm, shiftedIndices_add]
  ranges := by
    simp only [ofSprites, rangeEnds_append, List.tail_cons, List.cons_append]
    rw [Nat.add_comm, rangeEnds_add]

/-! ## Words -/

theorem toNat_add_ofNat {w : UInt32} {n : Nat} (fits : w.toNat + n < UInt32.size) :
    (w + .ofNat n).toNat = w.toNat + n := by
  have small : (UInt32.ofNat n).toNat = n := UInt32.toNat_ofNat_of_lt' (by omega)
  rw [UInt32.toNat_add, small]
  exact Nat.mod_eq_of_lt fits

/-- Whole sprites name no vertex behind their own. -/
theorem lt_of_mem_shiftedIndices {base : Nat} {sprites : List Sprite}
    (inside : ∀ s ∈ sprites, ∀ i ∈ s.indices, i.toNat < s.vertices.length)
    (fits : base + vertexCount sprites < UInt32.size) {w : UInt32}
    (hw : w ∈ shiftedIndices base sprites) : w.toNat < base + vertexCount sprites := by
  induction sprites generalizing base with
  | nil => cases hw
  | cons s sprites ih =>
      rw [vertexCount_cons] at fits ⊢
      rw [shiftedIndices, List.mem_append, List.mem_map] at hw
      rcases hw with ⟨i, hi, rfl⟩ | later
      · have own := inside s List.mem_cons_self i hi
        rw [toNat_add_ofNat (by omega)]
        omega
      · have bound := ih (fun t ht => inside t (List.mem_cons_of_mem _ ht)) (by omega) later
        omega

/-- The offsets of appended sprites are sums of numbers. -/
structure AppendedExactly (xs ys : List Sprite) : Prop extends Appended xs ys where
  indexNumbers : (∀ s ∈ ys, ∀ i ∈ s.indices, i.toNat < s.vertices.length) →
    (ofSprites (xs ++ ys)).indices.map UInt32.toNat =
      (ofSprites xs).indices.map UInt32.toNat ++
        (ofSprites ys).indices.map (·.toNat + vertexCount xs)
  rangeNumbers : (ofSprites (xs ++ ys)).ranges.map UInt32.toNat =
    (ofSprites xs).ranges.map UInt32.toNat ++
      (ofSprites ys).ranges.tail.map (·.toNat + indexCount xs)

theorem appendedExactly {xs ys : List Sprite} (vertices : vertexCount (xs ++ ys) < UInt32.size)
    (indices : indexCount (xs ++ ys) < UInt32.size) : AppendedExactly xs ys := by
  have appended := appended xs ys
  rw [vertexCount_append] at vertices
  rw [indexCount_append] at indices
  refine ⟨appended, fun inside => ?_, ?_⟩
  · rw [appended.indices, List.map_append, List.map_map]
    congr 1
    refine List.map_congr_left fun i hi => toNat_add_ofNat ?_
    have below : i.toNat < 0 + vertexCount ys := lt_of_mem_shiftedIndices inside (by omega) hi
    omega
  · rw [appended.ranges, List.map_append, List.map_map]
    congr 1
    refine List.map_congr_left fun w hw => toNat_add_ofNat ?_
    have below := (ascending_ranges (by omega)).2 w (List.mem_of_mem_tail hw)
    omega

/-! ## Bytes -/

theorem prefix_vertexBytes (xs ys : List Sprite) :
    (ofSprites xs).vertexBytes <+: (ofSprites (xs ++ ys)).vertexBytes := by
  rw [vertexBytes, vertexBytes, (appended xs ys).vertices, List.flatMap_append]
  exact List.prefix_append _ _

theorem length_vertexBytes (p : PackedSprites) :
    p.vertexBytes.length = 12 * p.vertices.length := by
  rw [vertexBytes, List.length_flatMap,
    List.map_congr_left fun v _ => PackedVertex.length_toBytes v, List.map_const',
    List.sum_replicate_nat, Nat.mul_comm]

end PackedSprites

/-! ## Reach -/

namespace Extent

/-- The bytes of packed index `k`. -/
def index (k : Nat) : Extent := ⟨4 * k, 4⟩

/-- The bytes of packed vertex `k`. -/
def vertex (k : Nat) : Extent := ⟨12 * k, 12⟩

theorem read_of_prefix {x : Extent} {bytes more : List UInt8} (grown : bytes <+: more)
    (inside : x.Within bytes.length) : x.read more = x.read bytes := by
  obtain ⟨rest, rfl⟩ := grown
  have first : x.first + x.length ≤ bytes.length := inside
  rw [read, read, List.drop_append_of_le_length (by omega),
    List.take_append_of_le_length (by rw [List.length_drop]; omega)]

theorem read_index {ws : List UInt32} {k : Nat} {w : UInt32} (h : ws[k]? = some w) :
    (index k).read (Bytes.ofWords ws) = Bytes.ofWord w := by
  induction ws generalizing k with
  | nil => cases h
  | cons v ws ih =>
      cases k with
      | zero =>
          cases h
          rfl
      | succ k => exact ih h

end Extent

/-- The contents of the two buffers of a sprite buffer. -/
structure SpriteContents where
  vertices : List UInt8
  indices : List UInt8

namespace SpriteContents

def ofSprites (sprites : List Sprite) : SpriteContents where
  vertices := (PackedSprites.ofSprites sprites).vertexBytes
  indices := (PackedSprites.ofSprites sprites).indexBytes

/-- Index `k` is the same word, which names the same vertex. If it names none that is stored, it
reaches nothing that could be kept. -/
structure Keeps (old new : SpriteContents) (k : Nat) (w : UInt32) : Prop where
  inside : (Extent.index k).Within old.indices.length
  before : (Extent.index k).read old.indices = Bytes.ofWord w
  after : (Extent.index k).read new.indices = Bytes.ofWord w
  vertex : (Extent.vertex w.toNat).Within old.vertices.length →
    (Extent.vertex w.toNat).read new.vertices = (Extent.vertex w.toNat).read old.vertices

open PackedSprites

/-- Packing more sprites behind keeps what the indices of a sprite reach. Those of a whole sprite
reach a vertex each. -/
theorem exists_keeps {before after more : List Sprite} {s : Sprite}
    (vertices : vertexCount (before ++ s :: after) < UInt32.size) {j : Nat}
    (hj : j < s.indices.length) :
    ∃ w, Keeps (ofSprites (before ++ s :: after)) (ofSprites (before ++ s :: after ++ more))
        (indexCount before + j) w ∧
      ((∀ i ∈ s.indices, i.toNat < s.vertices.length) →
        (Extent.vertex w.toNat).Within (ofSprites (before ++ s :: after)).vertices.length) := by
  have named : s.indices[j]? = some s.indices[j] := List.getElem?_eq_getElem hj
  have packed := getElem?_indices before after s named
  have packed' := getElem?_indices before (after ++ more) s named
  have length := (List.getElem?_eq_some_iff.mp packed).1
  have same : before ++ s :: (after ++ more) = before ++ s :: after ++ more := by simp
  rw [same] at packed'
  refine ⟨s.indices[j] + .ofNat (vertexCount before), ⟨?_, Extent.read_index packed,
    Extent.read_index packed', Extent.read_of_prefix (prefix_vertexBytes _ more)⟩, fun whole => ?_⟩
  · rw [Extent.Within, ofSprites, indexBytes, Bytes.length_ofWords]
    simp only [Extent.index]
    omega
  · have own := whole s.indices[j] (List.getElem_mem hj)
    rw [Extent.Within, ofSprites, length_vertexBytes, length_vertices, toNat_shifted own vertices,
      vertexCount_append, vertexCount_cons]
    simp only [Extent.vertex]
    omega

end SpriteContents

namespace SpriteBuffer

open PackedSprites

variable {b b' : SpriteBuffer} {id : Nat} {range : UInt32 × UInt32}

/-- Ranges that are known stay known. -/
theorem indexRange?_of_prefix (grown : b.ranges <+: b'.ranges)
    (found : b.indexRange? id = some range) : b'.indexRange? id = some range := by
  obtain ⟨rest, grown⟩ := grown
  rw [indexRange?] at found ⊢
  split at found
  case h_1 first last begins ends =>
    have inside := (List.getElem?_eq_some_iff.mp begins).1
    have inside' := (List.getElem?_eq_some_iff.mp ends).1
    rw [← grown, List.getElem?_append_left inside, List.getElem?_append_left inside', begins, ends]
    exact found
  case h_2 => cases found

/-- A range that is known is that of a sprite. -/
theorem exists_split_of_indexRange {sprites : List Sprite}
    (table : b.ranges = (ofSprites sprites).ranges) (found : b.indexRange? id = some range) :
    ∃ before s after, sprites = before ++ s :: after ∧ before.length = id ∧
      range = (.ofNat (indexCount before), .ofNat s.indices.length) := by
  rw [indexRange?] at found
  split at found
  case h_1 first last begins ends =>
    have inside := (List.getElem?_eq_some_iff.mp ends).1
    have length : (ofSprites sprites).ranges.length = sprites.length + 1 := by simp [ofSprites]
    rw [table, length] at inside
    have known : sprites[id]? = some sprites[id] := List.getElem?_eq_getElem (by omega)
    obtain ⟨before, after, split, rfl⟩ := exists_split known
    have next := getElem?_ranges (before ++ [sprites[before.length]]) after
    rw [List.append_assoc, List.singleton_append, ← split, List.length_append,
      List.length_singleton] at next
    have first' := getElem?_ranges before (sprites[before.length] :: after)
    rw [← split] at first'
    rw [table] at begins ends
    obtain rfl := Option.some.inj (first'.symm.trans begins)
    obtain rfl := Option.some.inj (next.symm.trans ends)
    refine ⟨before, _, after, split, rfl, ?_⟩
    rw [← Option.some.inj found, indexCount_append, UInt32.ofNat_add, UInt32.add_comm,
      UInt32.add_sub_cancel]
    rfl
  case h_2 => cases found

/-- A range that is known has the indices of its sprite, and packing more sprites behind keeps what
they reach. -/
theorem exists_reach {sprites : List Sprite} (table : b.ranges = (ofSprites sprites).ranges)
    (found : b.indexRange? id = some range) (more : List Sprite)
    (vertices : vertexCount sprites < UInt32.size) (indices : indexCount sprites < UInt32.size) :
    ∃ s, sprites[id]? = some s ∧ range.2.toNat = s.indices.length ∧
      ∀ j < s.indices.length, ∃ w,
        SpriteContents.Keeps (.ofSprites sprites) (.ofSprites (sprites ++ more))
          (range.1.toNat + j) w ∧
        ((∀ i ∈ s.indices, i.toNat < s.vertices.length) →
          (Extent.vertex w.toNat).Within (SpriteContents.ofSprites sprites).vertices.length) := by
  obtain ⟨before, s, rest, rfl, same, rfl⟩ := exists_split_of_indexRange table found
  have count : s.indices.length < UInt32.size := by
    rw [indexCount_append, indexCount_cons] at indices
    omega
  have first : (UInt32.ofNat (indexCount before)).toNat = indexCount before :=
    toNat_indexCount indices
  refine ⟨s, by rw [← same]; simp, UInt32.toNat_ofNat_of_lt' count, fun j hj => ?_⟩
  rw [first]
  exact SpriteContents.exists_keeps vertices hj

end SpriteBuffer

end SpriteRenderer
