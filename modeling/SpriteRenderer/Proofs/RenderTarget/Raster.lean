import Mathlib.Algebra.Order.Ring.Nat
import SpriteRenderer.Device.Headless

/-! # Framebuffers of pixels

What a device promises about the pixels of its framebuffers when they are read back and copied. It
counts rows from the bottom, and in signed words. -/

namespace SpriteRenderer

/-! ## Rasters -/

/-- The pixels of a framebuffer. -/
structure Raster where
  width : Nat
  height : Nat
  /-- The pixel of a column and a row, the lowest row first. -/
  pixel : Nat → Nat → Pixel
  width_lt : width < 2 ^ 31
  height_lt : height < 2 ^ 31

namespace Corners

/-- The pixels between two corners, the first of which is the lower left one. -/
def Holds (c : Corners) (x y : Int) : Prop :=
  (c.x₀.toInt ≤ x ∧ x < c.x₁.toInt) ∧ c.y₀.toInt ≤ y ∧ y < c.y₁.toInt

instance (c : Corners) (x y : Int) : Decidable (c.Holds x y) :=
  inferInstanceAs (Decidable (_ ∧ _))

/-- The rectangle is a part of the raster, and not mirrored. -/
structure Inside (c : Corners) (r : Raster) : Prop where
  left : 0 ≤ c.x₀.toInt
  width : c.x₀.toInt ≤ c.x₁.toInt
  right : c.x₁.toInt ≤ r.width
  bottom : 0 ≤ c.y₀.toInt
  height : c.y₀.toInt ≤ c.y₁.toInt
  top : c.y₁.toInt ≤ r.height

structure SameSize (c d : Corners) : Prop where
  width : c.x₁.toInt - c.x₀.toInt = d.x₁.toInt - d.x₀.toInt
  height : c.y₁.toInt - c.y₀.toInt = d.y₁.toInt - d.y₀.toInt

end Corners

namespace Raster

/-- The bytes of a part of a row. -/
def rowBytes (r : Raster) (x width y : Nat) : List UInt8 :=
  (List.range width).flatMap fun i => (r.pixel (x + i) y).toList

/-- The bytes of a rectangle, bottom row first. -/
def bytes (r : Raster) (x y width height : Nat) : List UInt8 :=
  (List.range height).flatMap fun j => r.rowBytes x width (y + j)

@[simp] theorem length_rowBytes (r : Raster) (x width y : Nat) :
    (r.rowBytes x width y).length = 4 * width := by
  simp [rowBytes, List.length_flatMap, Pixel.toList, List.map_const', Nat.mul_comm]

@[simp] theorem length_bytes (r : Raster) (x y width height : Nat) :
    (r.bytes x y width height).length = height * (4 * width) := by
  simp [bytes, List.length_flatMap, List.map_const']

/-- A rectangle of another raster copied to a place of this one. What falls outside is lost. -/
def paste (r other : Raster) (source place : Corners) : Raster := { r with
  pixel := fun x y =>
    if x < r.width ∧ y < r.height ∧ place.Holds x y then
      other.pixel (x - place.x₀.toInt + source.x₀.toInt).toNat
        (y - place.y₀.toInt + source.y₀.toInt).toNat
    else r.pixel x y }

end Raster

/-! ## Devices with rasters -/

/-- A device whose framebuffers hold pixels. No framebuffer is the window's. -/
class Rasterizer (δ : Type) {ℓ : outParam Type} [Device δ ℓ] where
  raster : δ → Option Handle → Raster
  /-- The framebuffers that are bound for reading and for drawing. -/
  reading : δ → Option Handle
  drawing : δ → Option Handle
  raster_bind (d : δ) (target : UInt32) (f : Option Handle) :
    raster (Device.perform d (.bindFramebuffer target f)) = raster d
  reading_bind (d : δ) (f : Option Handle) :
    reading (Device.perform d (.bindFramebuffer Gl.readFramebuffer f)) = f
  drawing_bind (d : δ) (f : Option Handle) :
    drawing (Device.perform d (.bindFramebuffer Gl.drawFramebuffer f)) = f
  reading_bind_draw (d : δ) (f : Option Handle) :
    reading (Device.perform d (.bindFramebuffer Gl.drawFramebuffer f)) = reading d
  /-- Pixels are read from what is bound for reading, bottom row first. -/
  readPixels (d : δ) (x y width height : Nat) (pixels : List UInt8) :
    x + width ≤ (raster d (reading d)).width → y + height ≤ (raster d (reading d)).height →
    pixels.length = height * (4 * width) →
    (Device.readPixels d ⟨.ofNat x, .ofNat y, .ofNat width, .ofNat height⟩ pixels).1 =
      (raster d (reading d)).bytes x y width height
  /-- Between two framebuffers a rectangle is copied to one as large. -/
  blit (d : δ) (source place : Corners) (filter : UInt32) (f : Option Handle) :
    reading d ≠ drawing d → source.Inside (raster d (reading d)) → place.SameSize source →
    raster (Device.perform d (.blitFramebuffer source place Gl.colorBufferBit filter)) f =
      if f = drawing d then (raster d (drawing d)).paste (raster d (reading d)) source place
      else raster d f

/-! ## A device of nothing but rasters -/

structure Canvas where
  rasters : Option Handle → Raster
  reading : Option Handle := none
  drawing : Option Handle := none

namespace Canvas

def perform (d : Canvas) : Command Unit → Canvas
  | .bindFramebuffer target f =>
    if target = Gl.readFramebuffer then { d with reading := f }
    else if target = Gl.drawFramebuffer then { d with drawing := f }
    else { d with reading := f, drawing := f }
  | .blitFramebuffer source place mask _ =>
    if mask = Gl.colorBufferBit then
      { d with rasters := fun f =>
          if f = d.drawing then
            (d.rasters d.drawing).paste (d.rasters d.reading) source place
          else d.rasters f }
    else d
  | _ => d

/-- Pixels that do not fit are not read. -/
def readPixels (d : Canvas) (area : Area) (pixels : List UInt8) : List UInt8 :=
  let bytes := (d.rasters d.reading).bytes area.x.toInt.toNat area.y.toInt.toNat
    area.width.toInt.toNat area.height.toInt.toNat
  if bytes.length = pixels.length then bytes else pixels

instance : Device Canvas Unit where
  create d _ := (.error (.backend .creationRefused), d)
  perform := perform
  isCompiled _ _ := false
  compileLog _ _ := ""
  isLinked _ _ := false
  linkLog _ _ := ""
  locate d _ _ := (none, d)
  framebufferStatus d _ := (Gl.framebufferComplete, d)
  readPixels d area pixels := (d.readPixels area pixels, d)
  length_readPixels d area pixels := by
    unfold readPixels
    dsimp only
    split
    · assumption
    · rfl

theorem toNat_toInt_ofNat {n : Nat} (small : n < 2 ^ 31) : (Int32.ofNat n).toInt.toNat = n := by
  rw [Int32.toInt_ofNat_of_lt small, Int.toNat_natCast]

instance : Rasterizer Canvas where
  raster := rasters
  reading := reading
  drawing := drawing
  raster_bind d target f := by
    change (d.perform (.bindFramebuffer target f)).rasters = _
    unfold perform
    dsimp only
    split
    · rfl
    · split <;> rfl
  reading_bind _ _ := rfl
  drawing_bind _ _ := rfl
  reading_bind_draw _ _ := rfl
  readPixels d x y width height pixels right top whole := by
    have w := (d.rasters d.reading).width_lt
    have h := (d.rasters d.reading).height_lt
    change d.readPixels _ pixels = _
    unfold readPixels
    dsimp only
    rw [toNat_toInt_ofNat (by omega), toNat_toInt_ofNat (by omega), toNat_toInt_ofNat (by omega),
      toNat_toInt_ofNat (by omega), Raster.length_bytes, if_pos whole.symm]
  blit _ _ _ _ _ _ _ _ := rfl

end Canvas

end SpriteRenderer
