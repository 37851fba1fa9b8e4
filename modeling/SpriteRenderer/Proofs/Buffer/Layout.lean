import Mathlib.Algebra.Ring.Nat
import SpriteRenderer.DataBuffer

/-! # Interleaved elements

Where the fields of a layout stand in the contents of a buffer, one element after the other. -/

namespace SpriteRenderer

/-! ## Extents -/

/-- A run of bytes. -/
structure Extent where
  first : Nat
  length : Nat
deriving DecidableEq, Repr

namespace Extent

def Apart (x y : Extent) : Prop := x.first + x.length ≤ y.first ∨ y.first + y.length ≤ x.first

def Within (x : Extent) (length : Nat) : Prop := x.first + x.length ≤ length

def read (x : Extent) (bytes : List UInt8) : List UInt8 := (bytes.drop x.first).take x.length

end Extent

/-! ## Blocks -/

namespace Bytes

/-- Blocks that follow one another begin where the blocks before them end. -/
theorem drop_flatten_append {blocks : List (List UInt8)} {i : Nat} {block : List UInt8}
    (h : blocks[i]? = some block) (rest : List UInt8) :
    (blocks.flatten ++ rest).drop ((blocks.map List.length).take i).sum =
      block ++ ((blocks.drop (i + 1)).flatten ++ rest) := by
  induction blocks generalizing i with
  | nil => cases h
  | cons b blocks ih =>
      cases i with
      | zero =>
          cases h
          simp
      | succ i =>
          have later := ih (i := i) h
          rw [List.flatten_cons, List.append_assoc, List.map_cons, List.take_succ_cons,
            List.sum_cons, List.drop_length_add_append, later]
          rfl

theorem drop_flatten_of_lengths {blocks : List (List UInt8)} {n : Nat}
    (lengths : ∀ block ∈ blocks, block.length = n) {i : Nat} {block : List UInt8}
    (h : blocks[i]? = some block) (rest : List UInt8) :
    (blocks.flatten ++ rest).drop (i * n) = block ++ ((blocks.drop (i + 1)).flatten ++ rest) := by
  have equal : blocks.map List.length = List.replicate blocks.length n := by
    rw [List.eq_replicate_iff]
    refine ⟨List.length_map .., ?_⟩
    simpa using lengths
  have inside : i ≤ blocks.length := Nat.le_of_lt (List.getElem?_eq_some_iff.mp h).1
  have first : ((blocks.map List.length).take i).sum = i * n := by
    rw [equal, List.take_replicate, Nat.min_eq_left inside, List.sum_replicate_nat]
  rw [← first, drop_flatten_append h]

end Bytes

/-! ## Layouts -/

namespace InputType

theorem totalSize_eq_sum (layout : List InputType) : totalSize layout = (layout.map size).sum := by
  induction layout with
  | nil => rfl
  | cons t layout ih => simp [ih]

theorem totalSize_take_le (layout : List InputType) (n : Nat) :
    totalSize (layout.take n) ≤ totalSize layout := by
  have parts := congrArg totalSize (List.take_append_drop n layout)
  rw [totalSize_append] at parts
  omega

theorem totalSize_take_mono (layout : List InputType) {m n : Nat} (h : m ≤ n) :
    totalSize (layout.take m) ≤ totalSize (layout.take n) := by
  have shorter := totalSize_take_le (layout.take n) m
  rwa [List.take_take, Nat.min_eq_left h] at shorter

theorem totalSize_take_succ {layout : List InputType} {slot : Nat} (inside : slot < layout.length) :
    totalSize (layout.take (slot + 1)) = totalSize (layout.take slot) + layout[slot].size := by
  rw [List.take_succ_eq_append_getElem inside, totalSize_append]
  simp

end InputType

namespace DataBuffer

/-- The bytes of a field of an element. -/
def extent (b : DataBuffer) (element : Nat) (slot : Fin b.layout.length) : Extent where
  first := element * b.stride + b.fieldStart slot
  length := b.layout[slot].size

theorem fieldStart_add_size_le (b : DataBuffer) (slot : Fin b.layout.length) :
    b.fieldStart slot + b.layout[slot].size ≤ b.stride := by
  have ends := InputType.totalSize_take_succ slot.isLt
  have below := InputType.totalSize_take_le b.layout (slot + 1)
  simp only [fieldStart, stride, Fin.getElem_fin]
  omega

/-- A field of a layout ends before the next one begins. -/
theorem fieldStart_add_size_le_fieldStart (b : DataBuffer) {s t : Fin b.layout.length}
    (h : s < t) : b.fieldStart s + b.layout[s].size ≤ b.fieldStart t := by
  have ends := InputType.totalSize_take_succ s.isLt
  have before := InputType.totalSize_take_mono b.layout (show (s : Nat) + 1 ≤ t from h)
  simp only [fieldStart, Fin.getElem_fin]
  omega

theorem extent_before {b : DataBuffer} {e e' : Nat} {s s' : Fin b.layout.length}
    (before : e < e' ∨ e = e' ∧ s < s') :
    (b.extent e s).first + (b.extent e s).length ≤ (b.extent e' s').first := by
  simp only [extent]
  rcases before with earlier | ⟨rfl, earlier⟩
  · have inside := b.fieldStart_add_size_le s
    have elements : (e + 1) * b.stride ≤ e' * b.stride := Nat.mul_le_mul_right _ earlier
    rw [Nat.add_mul, Nat.one_mul] at elements
    omega
  · have fields := b.fieldStart_add_size_le_fieldStart earlier
    omega

/-- No byte belongs to two fields. -/
theorem extent_apart {b : DataBuffer} {e e' : Nat} {s s' : Fin b.layout.length}
    (different : (e, s) ≠ (e', s')) : (b.extent e s).Apart (b.extent e' s') := by
  rcases Nat.lt_trichotomy e e' with earlier | rfl | later
  · exact .inl (extent_before (.inl earlier))
  · have fields : s ≠ s' := fun same => different (by rw [same])
    rcases Nat.lt_or_gt_of_ne (Fin.val_ne_of_ne fields) with earlier | later
    · exact .inl (extent_before (.inr ⟨rfl, earlier⟩))
    · exact .inr (extent_before (.inr ⟨rfl, later⟩))
  · exact .inr (extent_before (.inl later))

/-- Whole elements are inside the contents. -/
theorem extent_within {b : DataBuffer} {e : Nat} (stored : e < b.elementCount)
    (s : Fin b.layout.length) : (b.extent e s).Within b.byteLength := by
  have inside := b.fieldStart_add_size_le s
  have whole : b.elementCount * b.stride ≤ b.byteLength := Nat.div_mul_le_self _ _
  have elements : (e + 1) * b.stride ≤ b.elementCount * b.stride :=
    Nat.mul_le_mul_right _ stored
  rw [Nat.add_mul, Nat.one_mul] at elements
  simp only [Extent.Within, extent]
  omega

/-! ## Contents -/

/-- The fields of an element, each with the bytes that the layout has for it. -/
def Fits (b : DataBuffer) (element : List (List UInt8)) : Prop :=
  element.map List.length = b.layout.map InputType.size

theorem length_flatten_of_fits {b : DataBuffer} {element : List (List UInt8)}
    (fits : b.Fits element) : element.flatten.length = b.stride := by
  rw [List.length_flatten, fits, stride, InputType.totalSize_eq_sum]

theorem drop_elements {b : DataBuffer} {elements : List (List (List UInt8))}
    (fits : ∀ element ∈ elements, b.Fits element) {e : Nat} {element : List (List UInt8)}
    (h : elements[e]? = some element) (rest : List UInt8) :
    (elements.flatMap List.flatten ++ rest).drop (e * b.stride) =
      element.flatten ++ ((elements.drop (e + 1)).flatMap List.flatten ++ rest) := by
  have lengths : ∀ block ∈ elements.map List.flatten, block.length = b.stride := by
    rw [List.forall_mem_map]
    exact fun element mem => length_flatten_of_fits (fits element mem)
  have block : (elements.map List.flatten)[e]? = some element.flatten := by
    rw [List.getElem?_map, h]
    rfl
  rw [List.flatMap_def, Bytes.drop_flatten_of_lengths lengths block, ← List.map_drop,
    List.flatMap_def]

/-- What stands at the bytes of a field is the field. -/
theorem read_extent {b : DataBuffer} {elements : List (List (List UInt8))}
    (fits : ∀ element ∈ elements, b.Fits element) {e : Nat} {element : List (List UInt8)}
    (h : elements[e]? = some element) {s : Fin b.layout.length} {field : List UInt8}
    (hs : element[(s : Nat)]? = some field) (rest : List UInt8) :
    (b.extent e s).read (elements.flatMap List.flatten ++ rest) = field := by
  have fitting := fits element (List.mem_of_getElem? h)
  have start : b.fieldStart s = ((element.map List.length).take s).sum := by
    rw [fitting, fieldStart, InputType.totalSize_eq_sum, List.map_take]
  have length : field.length = b.layout[s].size := by
    have lengths := congrArg (·[(s : Nat)]?) fitting
    simpa [hs] using lengths
  rw [Extent.read, extent, ← List.drop_drop, drop_elements fits h, start,
    Bytes.drop_flatten_append hs, ← length, List.take_left]

end DataBuffer

end SpriteRenderer
