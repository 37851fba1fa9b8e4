import Mathlib.Tactic.Ring
import SpriteRenderer.Proofs.Buffer.Layout
import SpriteRenderer.Proofs.RenderTarget.Raster
import SpriteRenderer.RenderTarget

/-! # Reading targets back and copying them

Images and places of copies are measured from the top, framebuffers from the bottom. A copy turns
rows over once and reading back turns them over again, so that both agree. -/

namespace SpriteRenderer

/-! ## Images of rasters -/

namespace Image

/-- Rows in opposite order. -/
theorem flipRows_flatten {rowLength : Nat} {rows : List (List UInt8)}
    (lengths : ∀ row ∈ rows, row.length = rowLength) :
    flipRows rowLength rows.length rows.flatten = rows.reverse.flatten := by
  induction rows with
  | nil => simp
  | cons row rows ih =>
      obtain ⟨length, lengths⟩ := List.forall_mem_cons.mp lengths
      rw [List.length_cons, flipRows_succ, List.flatten_cons, ← length, List.drop_left,
        List.take_left, length, ih lengths, List.reverse_cons, List.flatten_append]
      simp

/-- The pixel of a column and a row, the top row first. -/
def pixel? (i : Image) (x y : Nat) : Option Pixel :=
  if x < i.size.width.toNat ∧ y < i.size.height.toNat then
    match (i.bytes.drop (4 * (y * i.size.width.toNat + x))).take 4 with
    | [r, g, b, a] => some ⟨r, g, b, a⟩
    | _ => none
  else none

end Image

namespace Raster

/-- The raster as an image, top row first. -/
def image (r : Raster) : Image where
  size := ⟨.ofNat r.width, .ofNat r.height⟩
  bytes := ((List.range r.height).map (r.rowBytes 0 r.width)).reverse.flatten

variable {r : Raster}

theorem toNat_width (r : Raster) : r.image.size.width.toNat = r.width := by
  have small := r.width_lt
  exact UInt32.toNat_ofNat_of_lt' (Nat.lt_trans small (by decide))

theorem toNat_height (r : Raster) : r.image.size.height.toNat = r.height := by
  have small := r.height_lt
  exact UInt32.toNat_ofNat_of_lt' (Nat.lt_trans small (by decide))

/-- Row `y` of the image is row `height - 1 - y` of the raster. -/
theorem getElem?_rows {y : Nat} (hy : y < r.height) :
    ((List.range r.height).map (r.rowBytes 0 r.width)).reverse[y]? =
      some (r.rowBytes 0 r.width (r.height - 1 - y)) := by
  rw [List.getElem?_reverse (by simpa using hy)]
  simp [Nat.lt_of_le_of_lt (Nat.sub_le _ y) (Nat.sub_lt (Nat.zero_lt_of_lt hy) Nat.one_pos)]

/-- What is read of a whole raster is its image turned over. -/
theorem flipRows_bytes (r : Raster) :
    Image.flipRows (4 * r.width) r.height (r.bytes 0 0 r.width r.height) = r.image.bytes := by
  have lengths : ∀ row ∈ (List.range r.height).map (r.rowBytes 0 r.width),
      row.length = 4 * r.width := by
    simp
  have flipped := Image.flipRows_flatten lengths
  rw [List.length_map, List.length_range] at flipped
  rw [← List.flatMap_def] at flipped
  simpa [bytes, image] using flipped

theorem drop_rowBytes {width x : Nat} (hx : x < width) (y : Nat) (rest : List UInt8) :
    ∃ more, (r.rowBytes 0 width y ++ rest).drop (x * 4) = (r.pixel x y).toList ++ more := by
  have lengths : ∀ block ∈ (List.range width).map fun i => (r.pixel (0 + i) y).toList,
      block.length = 4 := by
    rw [List.forall_mem_map]
    exact fun _ _ => rfl
  have block : ((List.range width).map fun i => (r.pixel (0 + i) y).toList)[x]? =
      some (r.pixel x y).toList := by
    simp [hx]
  rw [rowBytes, List.flatMap_def, Bytes.drop_flatten_of_lengths lengths block]
  exact ⟨_, rfl⟩

theorem drop_image {y : Nat} (hy : y < r.height) :
    ∃ more, r.image.bytes.drop (y * (4 * r.width)) =
      r.rowBytes 0 r.width (r.height - 1 - y) ++ more := by
  have lengths : ∀ row ∈ ((List.range r.height).map (r.rowBytes 0 r.width)).reverse,
      row.length = 4 * r.width := by
    simp
  have rows := Bytes.drop_flatten_of_lengths lengths (getElem?_rows hy) []
  rw [List.append_nil] at rows
  exact ⟨_, rows⟩

theorem row_image {y : Nat} (hy : y < r.height) :
    (r.image.bytes.drop (y * (4 * r.width))).take (4 * r.width) =
      r.rowBytes 0 r.width (r.height - 1 - y) := by
  obtain ⟨more, row⟩ := drop_image hy
  rw [row, List.take_left' (length_rowBytes _ _ _ _)]

theorem pixel?_image {x y : Nat} (hx : x < r.width) (hy : y < r.height) :
    r.image.pixel? x y = some (r.pixel x (r.height - 1 - y)) := by
  obtain ⟨below, row⟩ := drop_image hy
  obtain ⟨more, pixels⟩ := drop_rowBytes (r := r) hx (r.height - 1 - y) below
  have place : 4 * (y * r.width + x) = y * (4 * r.width) + x * 4 := by ring
  rw [Image.pixel?, toNat_width, toNat_height, if_pos ⟨hx, hy⟩, place, ← List.drop_drop, row,
    pixels]
  rfl

end Raster

/-! ## Reading back -/

theorem ofNat_toNat_eq_toInt32 (n : UInt32) : Int32.ofNat n.toNat = n.toInt32 := by
  apply Int32.toBitVec_inj.mp
  simp

section

variable {δ ℓ : Type} [Device δ ℓ] [Rasterizer δ]

theorem Rasterizer.readPixels_whole (d : δ) :
    let r := raster d (reading d)
    (Device.readPixels d ⟨0, 0, .ofNat r.width, .ofNat r.height⟩
      (List.replicate (r.height * (4 * r.width)) 0)).1 = r.bytes 0 0 r.width r.height :=
  readPixels d 0 0 _ _ _ (Nat.le_of_eq (Nat.zero_add _)) (Nat.le_of_eq (Nat.zero_add _))
    List.length_replicate

namespace Host

/-- What a framebuffer holds. -/
def raster (h : Host δ) (f : Option Handle) : Raster := Rasterizer.raster h.device f

end Host

namespace RenderTarget

variable {t : RenderTarget} {h : Host δ}

/-- The framebuffer of the target is as large as the target. -/
structure Sized (t : RenderTarget) (h : Host δ) : Prop where
  width : (h.raster t.framebuffer?).width = (t.size h.window).width.toNat
  height : (h.raster t.framebuffer?).height = (t.size h.window).height.toNat

theorem Sized.size_image (sized : t.Sized h) :
    (h.raster t.framebuffer?).image.size = t.size h.window := by
  rw [Raster.image, sized.width, sized.height, UInt32.ofNat_toNat, UInt32.ofNat_toNat]

omit [Rasterizer δ] in
/-- Whatever the framebuffer is, an image of the size of the target is read back. Sizes
beyond the address space are idealised, as in `RenderTarget.readPixels`. -/
theorem exists_readPixels (single : t.isMultisampled = false) (h : Host δ) :
    ∃ image, ((t.readPixels : Action δ Image).run h).1 = .ok image ∧
      image.size = t.size h.window ∧
      image.bytes.length = 4 * image.size.width.toNat * image.size.height.toNat := by
  rw [run_readPixels single h]
  refine ⟨_, rfl, rfl, ?_⟩
  dsimp only
  rw [Image.length_flipRows (by rw [Device.length_readPixels, List.length_replicate]),
    Nat.mul_comm]

/-- A target is read back as its framebuffer turned over. -/
theorem readPixels_eq_image (single : t.isMultisampled = false) (sized : t.Sized h) :
    ((t.readPixels : Action δ Image).run h).1 = .ok (h.raster t.framebuffer?).image := by
  have bound : Rasterizer.raster
      (h.performAll [.bindFramebuffer Gl.readFramebuffer t.framebuffer?]).device
        (Rasterizer.reading
          (h.performAll [.bindFramebuffer Gl.readFramebuffer t.framebuffer?]).device) =
      h.raster t.framebuffer? := by
    change Rasterizer.raster (Device.perform h.device _)
      (Rasterizer.reading (Device.perform h.device _)) = _
    rw [Rasterizer.raster_bind, Rasterizer.reading_bind]
    rfl
  have read := Rasterizer.readPixels_whole
    (h.performAll [.bindFramebuffer Gl.readFramebuffer t.framebuffer?]).device
  rw [bound] at read
  rw [run_readPixels single h]
  dsimp only
  rw [← ofNat_toNat_eq_toInt32, ← ofNat_toNat_eq_toInt32, ← sized.width, ← sized.height,
    ← sized.size_image, read, Raster.flipRows_bytes]

/-! ## Copying -/

omit [Rasterizer δ] in
theorem run_blitTo {destination : RenderTarget} (single : destination.isMultisampled = false)
    (x y : Int32) :
    (t.blitTo destination x y : Action δ Unit).run h =
      (.ok (), h.performAll [.bindFramebuffer Gl.readFramebuffer t.framebuffer?,
        .bindFramebuffer Gl.drawFramebuffer destination.framebuffer?,
        .blitFramebuffer (blitCorners (t.size h.window) (destination.size h.window) x y).1
          (blitCorners (t.size h.window) (destination.size h.window) x y).2
          Gl.colorBufferBit Gl.nearest,
        .bindFramebuffer Gl.framebuffer none]) := by
  rw [blitTo, if_neg (by simp [single])]
  rfl

/-- A number that is a signed word. -/
def IsSigned (n : Int) : Prop := -2 ^ 31 ≤ n ∧ n < 2 ^ 31

instance (n : Int) : Decidable (IsSigned n) := inferInstanceAs (Decidable (_ ∧ _))

/-- No sum that a copy is placed with overflows. -/
structure Placeable (source destination : Size) (x y : Int32) : Prop where
  below : IsSigned (destination.height.toInt32.toInt - source.height.toInt32.toInt)
  bottom : IsSigned (destination.height.toInt32.toInt - source.height.toInt32.toInt - y.toInt)
  top : IsSigned (destination.height.toInt32.toInt - y.toInt)
  right : IsSigned (x.toInt + source.width.toInt32.toInt)

theorem toInt_add_of_isSigned {a b : Int32} (fits : IsSigned (a.toInt + b.toInt)) :
    (a + b).toInt = a.toInt + b.toInt := by
  rw [Int32.toInt_add]
  exact Int.bmod_eq_of_le fits.1 fits.2

theorem toInt_sub_of_isSigned {a b : Int32} (fits : IsSigned (a.toInt - b.toInt)) :
    (a - b).toInt = a.toInt - b.toInt := by
  rw [Int32.toInt_sub]
  exact Int.bmod_eq_of_le fits.1 fits.2

/-- Where a copy is placed, in numbers. -/
structure Places (source destination : Size) (x y : Int32) (place : Corners) : Prop where
  left : place.x₀.toInt = x.toInt
  right : place.x₁.toInt = x.toInt + source.width.toInt32.toInt
  bottom : place.y₀.toInt =
    destination.height.toInt32.toInt - source.height.toInt32.toInt - y.toInt
  top : place.y₁.toInt = destination.height.toInt32.toInt - y.toInt

theorem Placeable.places {source destination : Size} {x y : Int32}
    (fits : Placeable source destination x y) :
    Places source destination x y (blitCorners source destination x y).2 := by
  have below := toInt_sub_of_isSigned fits.below
  have bottom : (destination.height.toInt32 - source.height.toInt32 - y).toInt =
      destination.height.toInt32.toInt - source.height.toInt32.toInt - y.toInt := by
    rw [toInt_sub_of_isSigned (by rw [below]; exact fits.bottom), below]
  have sum : destination.height.toInt32.toInt - source.height.toInt32.toInt - y.toInt +
      source.height.toInt32.toInt = destination.height.toInt32.toInt - y.toInt := by
    omega
  refine ⟨rfl, toInt_add_of_isSigned fits.right, bottom, ?_⟩
  change (_ + source.height.toInt32).toInt = _
  rw [toInt_add_of_isSigned (by rw [bottom, sum]; exact fits.top), bottom, sum]

theorem Places.sameSize {source destination : Size} {x y : Int32} {place : Corners}
    (places : Places source destination x y place) :
    place.SameSize (blitCorners source destination x y).1 := by
  constructor
  · change _ = source.width.toInt32.toInt - 0
    rw [places.right, places.left]
    omega
  · change _ = source.height.toInt32.toInt - 0
    rw [places.top, places.bottom]
    omega

/-- The rectangles of a copy have the same sides as words, whatever overflows. -/
theorem blitCorners_sides (source destination : Size) (x y : Int32) :
    let c := blitCorners source destination x y
    c.2.x₁ - c.2.x₀ = c.1.x₁ - c.1.x₀ ∧ c.2.y₁ - c.2.y₀ = c.1.y₁ - c.1.y₀ := by
  constructor
  · change x + source.width.toInt32 - x = source.width.toInt32 - 0
    rw [Int32.add_comm, Int32.add_sub_cancel, Int32.sub_zero]
  · change destination.height.toInt32 - source.height.toInt32 - y + source.height.toInt32 -
      (destination.height.toInt32 - source.height.toInt32 - y) = source.height.toInt32 - 0
    rw [Int32.add_comm, Int32.add_sub_cancel, Int32.sub_zero]

variable {destination : RenderTarget} {x y : Int32}

theorem Sized.toInt_width (sized : t.Sized h) :
    (t.size h.window).width.toInt32.toInt = (h.raster t.framebuffer?).width := by
  have small := (h.raster t.framebuffer?).width_lt
  rw [toInt_toInt32 (by rw [← sized.width]; exact small), sized.width]

theorem Sized.toInt_height (sized : t.Sized h) :
    (t.size h.window).height.toInt32.toInt = (h.raster t.framebuffer?).height := by
  have small := (h.raster t.framebuffer?).height_lt
  rw [toInt_toInt32 (by rw [← sized.height]; exact small), sized.height]

/-- A copy pastes the whole target at its place and leaves all other framebuffers. -/
theorem raster_blitTo (single : destination.isMultisampled = false)
    (apart : t.framebuffer? ≠ destination.framebuffer?) (sized : t.Sized h)
    (fits : Placeable (t.size h.window) (destination.size h.window) x y) (f : Option Handle) :
    ((t.blitTo destination x y : Action δ Unit).run h).2.raster f =
      if f = destination.framebuffer? then
        (h.raster destination.framebuffer?).paste (h.raster t.framebuffer?)
          (blitCorners (t.size h.window) (destination.size h.window) x y).1
          (blitCorners (t.size h.window) (destination.size h.window) x y).2
      else h.raster f := by
  have reading : Rasterizer.reading (Device.perform
      (Device.perform h.device (.bindFramebuffer Gl.readFramebuffer t.framebuffer?))
      (.bindFramebuffer Gl.drawFramebuffer destination.framebuffer?)) = t.framebuffer? := by
    rw [Rasterizer.reading_bind_draw, Rasterizer.reading_bind]
  have drawing : Rasterizer.drawing (Device.perform
      (Device.perform h.device (.bindFramebuffer Gl.readFramebuffer t.framebuffer?))
      (.bindFramebuffer Gl.drawFramebuffer destination.framebuffer?)) =
        destination.framebuffer? := Rasterizer.drawing_bind _ _
  have raster : Rasterizer.raster (Device.perform
      (Device.perform h.device (.bindFramebuffer Gl.readFramebuffer t.framebuffer?))
      (.bindFramebuffer Gl.drawFramebuffer destination.framebuffer?)) = h.raster := by
    rw [Rasterizer.raster_bind, Rasterizer.raster_bind]
    rfl
  have inside : (blitCorners (t.size h.window) (destination.size h.window) x y).1.Inside
      (h.raster t.framebuffer?) := by
    have width : (0 : Int) ≤ (t.size h.window).width.toInt32.toInt := by
      rw [sized.toInt_width]
      exact Int.natCast_nonneg _
    have height : (0 : Int) ≤ (t.size h.window).height.toInt32.toInt := by
      rw [sized.toInt_height]
      exact Int.natCast_nonneg _
    exact ⟨Int.le_refl 0, width, sized.toInt_width.le, Int.le_refl 0, height,
      sized.toInt_height.le⟩
  rw [run_blitTo single]
  change Rasterizer.raster (Device.perform (Device.perform (Device.perform
    (Device.perform h.device _) _) _) _) f = _
  rw [Rasterizer.raster_bind, Rasterizer.blit, drawing, reading, raster]
  · rw [reading, drawing]
    exact apart
  · rw [reading, raster]
    exact inside
  · exact fits.places.sameSize

/-- Measured from the top, a pasted target begins at its place. -/
theorem pixel_paste {r source : Raster} {size size' : Size} {place : Corners}
    (places : Places size size' x y place) (width : size.width.toInt32.toInt = source.width)
    (height : size.height.toInt32.toInt = source.height)
    (height' : size'.height.toInt32.toInt = r.height) {X Y : Nat} (hX : X < r.width)
    (hY : Y < r.height) :
    (r.paste source (blitCorners size size' x y).1 place).pixel X (r.height - 1 - Y) =
      if (0 ≤ X - x.toInt ∧ X - x.toInt < source.width) ∧
          0 ≤ Y - y.toInt ∧ Y - y.toInt < source.height then
        source.pixel (X - x.toInt).toNat (source.height - 1 - (Y - y.toInt).toNat)
      else r.pixel X (r.height - 1 - Y) := by
  have row : ((r.height - 1 - Y : Nat) : Int) = r.height - 1 - Y := by omega
  have inside : place.Holds X (r.height - 1 - Y : Nat) ↔
      (0 ≤ X - x.toInt ∧ X - x.toInt < source.width) ∧
        0 ≤ Y - y.toInt ∧ Y - y.toInt < source.height := by
    rw [Corners.Holds, places.left, places.right, places.bottom, places.top, width, height, height',
      row]
    omega
  have left : (blitCorners size size' x y).1.x₀.toInt = 0 := rfl
  have bottom : (blitCorners size size' x y).1.y₀.toInt = 0 := rfl
  simp only [Raster.paste, inside, hX, true_and, show r.height - 1 - Y < r.height by omega]
  split
  case isTrue within =>
    rw [left, bottom, places.left, places.bottom, height, height', row]
    congr 1
    · omega
    · omega
  case isFalse => rfl

theorem pixel?_paste {r source : Raster} {size size' : Size} {place : Corners}
    (places : Places size size' x y place) (width : size.width.toInt32.toInt = source.width)
    (height : size.height.toInt32.toInt = source.height)
    (height' : size'.height.toInt32.toInt = r.height) {X Y : Nat} (hX : X < r.width)
    (hY : Y < r.height) :
    (r.paste source (blitCorners size size' x y).1 place).image.pixel? X Y =
      if (0 ≤ X - x.toInt ∧ X - x.toInt < source.width) ∧
          0 ≤ Y - y.toInt ∧ Y - y.toInt < source.height then
        source.image.pixel? (X - x.toInt).toNat (Y - y.toInt).toNat
      else r.image.pixel? X Y := by
  have read := Raster.pixel?_image
    (r := r.paste source (blitCorners size size' x y).1 place) hX hY
  have pasted := pixel_paste places width height height' hX hY
  refine read.trans ((congrArg some pasted).trans ?_)
  split
  case isTrue within =>
    obtain ⟨⟨left, right⟩, top, bottom⟩ := within
    exact (Raster.pixel?_image (by omega) (by omega)).symm
  case isFalse => exact (Raster.pixel?_image hX hY).symm

/-- A copy changes no size. -/
theorem Sized.blitTo (single : destination.isMultisampled = false)
    (apart : t.framebuffer? ≠ destination.framebuffer?) (sized : t.Sized h)
    (sized' : destination.Sized h)
    (fits : Placeable (t.size h.window) (destination.size h.window) x y) :
    destination.Sized ((t.blitTo destination x y : Action δ Unit).run h).2 := by
  have after := (raster_blitTo single apart sized fits destination.framebuffer?).trans (if_pos rfl)
  have window : ((t.blitTo destination x y : Action δ Unit).run h).2.window = h.window := by
    rw [run_blitTo single]
    exact Host.window_performAll _ _
  constructor <;> rw [after, window]
  · exact sized'.width
  · exact sized'.height

/-- A target that is not multisampled is read back with its size, its top row first. After it was
copied into another one, its top left corner is at the place that was named, and what it does not
cover is as before. -/
theorem blit_and_read_from_top (h : Host δ) :
    (∀ t : RenderTarget, t.isMultisampled = false →
      ∃ image, ((t.readPixels : Action δ Image).run h).1 = .ok image ∧
        image.size = t.size h.window ∧
        image.bytes.length = 4 * image.size.width.toNat * image.size.height.toNat ∧
        (t.Sized h → ∀ y < image.size.height.toNat,
          (image.bytes.drop (y * (4 * image.size.width.toNat))).take
              (4 * image.size.width.toNat) =
            (h.raster t.framebuffer?).rowBytes 0 image.size.width.toNat
              (image.size.height.toNat - 1 - y) ∧
          ∀ x < image.size.width.toNat, image.pixel? x y =
            some ((h.raster t.framebuffer?).pixel x (image.size.height.toNat - 1 - y)))) ∧
    (∀ (t destination : RenderTarget) (x y : Int32), t.isMultisampled = false →
      destination.isMultisampled = false → t.framebuffer? ≠ destination.framebuffer? →
      t.Sized h → destination.Sized h →
      Placeable (t.size h.window) (destination.size h.window) x y →
      ((t.blitTo destination x y : Action δ Unit).run h).1 = .ok () ∧
      ∃ source old new, ((t.readPixels : Action δ Image).run h).1 = .ok source ∧
        ((destination.readPixels : Action δ Image).run h).1 = .ok old ∧
        ((destination.readPixels : Action δ Image).run
          ((t.blitTo destination x y : Action δ Unit).run h).2).1 = .ok new ∧
        new.size = old.size ∧
        ∀ X < new.size.width.toNat, ∀ Y < new.size.height.toNat, new.pixel? X Y =
          if (0 ≤ X - x.toInt ∧ X - x.toInt < source.size.width.toNat) ∧
              0 ≤ Y - y.toInt ∧ Y - y.toInt < source.size.height.toNat then
            source.pixel? (X - x.toInt).toNat (Y - y.toInt).toNat
          else old.pixel? X Y) ∧
    ∀ (t destination : RenderTarget) (x y : Int32), destination.isMultisampled = false →
      ∃ before after part place, (t.blitTo destination x y : Action δ Unit).run h =
          (.ok (), h.performAll
            (before ++ .blitFramebuffer part place Gl.colorBufferBit Gl.nearest :: after)) ∧
        place.x₁ - place.x₀ = part.x₁ - part.x₀ ∧ place.y₁ - place.y₀ = part.y₁ - part.y₀ ∧
        (Placeable (t.size h.window) (destination.size h.window) x y → place.SameSize part) := by
  refine ⟨fun t single => ?_, fun t destination x y single single' apart sized sized' fits => ?_,
    fun t destination x y single => ?_⟩
  · obtain ⟨image, read, size, length⟩ := exists_readPixels single h
    refine ⟨image, read, size, length, fun sized y hy => ?_⟩
    obtain rfl := Except.ok.inj (read.symm.trans (readPixels_eq_image single sized))
    rw [Raster.toNat_height] at hy ⊢
    rw [Raster.toNat_width]
    exact ⟨Raster.row_image hy, fun x hx => Raster.pixel?_image hx hy⟩
  · have after := (raster_blitTo single' apart sized fits destination.framebuffer?).trans
      (if_pos rfl)
    have still := sized.blitTo single' apart sized' fits
    refine ⟨by rw [run_blitTo single'], _, _, _, readPixels_eq_image single sized,
      readPixels_eq_image single' sized', readPixels_eq_image single' still, ?_, ?_⟩
    · rw [after]
      rfl
    · intro X hX Y hY
      rw [after, Raster.toNat_width] at hX
      rw [after, Raster.toNat_height] at hY
      rw [after, Raster.toNat_width, Raster.toNat_height]
      exact pixel?_paste fits.places sized.toInt_width sized.toInt_height sized'.toInt_height hX hY
  · obtain ⟨widths, heights⟩ := blitCorners_sides (t.size h.window) (destination.size h.window) x y
    exact ⟨[_, _], [_], _, _, run_blitTo single x y, widths, heights,
      fun fits => fits.places.sameSize⟩

end RenderTarget

end

namespace Canvas

/-- A raster whose pixels tell their own places. -/
def labelled (label : UInt8) (width height : Nat) (width_lt : width < 2 ^ 31)
    (height_lt : height < 2 ^ 31) : Raster where
  width
  height
  pixel x y := ⟨.ofNat x, .ofNat y, label, 255⟩
  width_lt
  height_lt

/-- A window of 4 by 3 pixels, and a framebuffer of 3 by 2. -/
def twoFramebuffers : Host Canvas where
  device := { rasters := fun
    | some _ => labelled 7 3 2 (by decide) (by decide)
    | none => labelled 0 4 3 (by decide) (by decide) }
  window := ⟨4, 3⟩

def small : RenderTarget := .offscreen ⟨5, .textures 6 7, ⟨3, 2⟩⟩

end Canvas

open RenderTarget in
/-- The lower row of the target and its left column fall outside of the window. -/
theorem blit_and_read_from_top_partlyOutside :
    Canvas.small.Sized Canvas.twoFramebuffers ∧ primary.Sized Canvas.twoFramebuffers ∧
      Placeable ⟨3, 2⟩ ⟨4, 3⟩ (-1) 2 ∧
      ∃ new, ((primary.readPixels : Action Canvas Image).run
          ((Canvas.small.blitTo primary (-1) 2 : Action Canvas Unit).run
            Canvas.twoFramebuffers).2).1 = .ok new ∧
        new.pixel? 0 2 = some ⟨1, 1, 7, 255⟩ ∧ new.pixel? 1 2 = some ⟨2, 1, 7, 255⟩ ∧
        new.pixel? 2 2 = some ⟨2, 0, 0, 255⟩ ∧ new.pixel? 1 1 = some ⟨1, 1, 0, 255⟩ := by
  have sized : Canvas.small.Sized Canvas.twoFramebuffers := ⟨rfl, rfl⟩
  have sized' : primary.Sized Canvas.twoFramebuffers := ⟨rfl, rfl⟩
  have fits : Placeable ⟨3, 2⟩ ⟨4, 3⟩ (-1) 2 :=
    ⟨by decide, by decide, by decide, by decide⟩
  obtain ⟨reads, copies, -⟩ := blit_and_read_from_top Canvas.twoFramebuffers
  obtain ⟨-, source, old, new, read, read', again, same, pixels⟩ :=
    copies Canvas.small primary (-1) 2 rfl rfl (by decide) sized sized' fits
  obtain ⟨_, copied, size, -, shows⟩ := reads Canvas.small rfl
  obtain ⟨_, kept, size', -, shows'⟩ := reads primary rfl
  obtain rfl := Except.ok.inj (read.symm.trans copied)
  obtain rfl := Except.ok.inj (read'.symm.trans kept)
  simp only [same, size, size'] at pixels shows shows'
  refine ⟨sized, sized', fits, new, again, ?_, ?_, ?_, ?_⟩
  · rw [pixels 0 (by decide) 2 (by decide), if_pos (by decide)]
    exact (shows sized 0 (by decide)).2 1 (by decide)
  · rw [pixels 1 (by decide) 2 (by decide), if_pos (by decide)]
    exact (shows sized 0 (by decide)).2 2 (by decide)
  · rw [pixels 2 (by decide) 2 (by decide), if_neg (by decide)]
    exact (shows' sized' 2 (by decide)).2 2 (by decide)
  · rw [pixels 1 (by decide) 1 (by decide), if_neg (by decide)]
    exact (shows' sized' 1 (by decide)).2 1 (by decide)

end SpriteRenderer
