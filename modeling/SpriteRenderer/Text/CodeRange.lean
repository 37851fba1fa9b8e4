/-! # Ranges of code points -/

namespace SpriteRenderer.Text

/-- The first and the last code point of a range. -/
abbrev CodeRange := Nat × Nat

namespace CodeRange

/-- One of the ranges, which ascend, holds the character. -/
def cover (ranges : List CodeRange) (c : Char) : Bool :=
  match ranges.find? (c.toNat ≤ ·.2) with
  | some r => r.1 ≤ c.toNat
  | none => false

end CodeRange

end SpriteRenderer.Text
