/-! # Colours -/

namespace SpriteRenderer

/-- An 8-bit colour with opacity. -/
structure Color where
  r : UInt8
  g : UInt8
  b : UInt8
  a : UInt8
deriving DecidableEq, Repr

namespace Color

/-- Transparent black, the colour before any is chosen. -/
def transparent : Color := ⟨0, 0, 0, 0⟩

def opaqueRgb (r g b : UInt8) : Color := ⟨r, g, b, 255⟩

def black : Color := opaqueRgb 0 0 0

def white : Color := opaqueRgb 255 255 255

/-- The byte order of the sprite wire form: opacity first. -/
def toArgb (c : Color) : List UInt8 := [c.a, c.r, c.g, c.b]

def ofArgb (a r g b : UInt8) : Color := ⟨r, g, b, a⟩

@[simp] theorem toArgb_ofArgb (a r g b : UInt8) : (ofArgb a r g b).toArgb = [a, r, g, b] := rfl

end Color

end SpriteRenderer
