/-! # Lines and words -/

namespace SpriteRenderer.Text

/-- Characters that the Unicode property White_Space holds of. -/
def isBlank (c : Char) : Bool :=
  let n := c.toNat
  (9 ≤ n && n ≤ 13) || n == 0x20 || n == 0x85 || n == 0xa0 || n == 0x1680 ||
    (0x2000 ≤ n && n ≤ 0x200a) || n == 0x2028 || n == 0x2029 || n == 0x202f || n == 0x205f ||
    n == 0x3000

/-- The lines of a text, line feeds removed. -/
def lines : List Char → List (List Char)
  | [] => [[]]
  | c :: cs =>
    if c = '\n' then [] :: lines cs
    else
      match lines cs with
      | [] => [[c]]
      | l :: ls => (c :: l) :: ls

/-- A text less the characters at its end that satisfy `p`. -/
def dropEndWhile (p : Char → Bool) (cs : List Char) : List Char :=
  (cs.reverse.dropWhile p).reverse

/-- The last word of a text, if it has words. -/
def lastWord? (cs : List Char) : Option (List Char) :=
  match ((cs.reverse.dropWhile isBlank).takeWhile (!isBlank ·)).reverse with
  | [] => none
  | word => some word

example : isBlank ' ' ∧ isBlank '\t' ∧ isBlank '\u3000' ∧ ¬ isBlank '\u200b' := by decide

example : lastWord? "uniform vec2 x ".toList = some ['x'] := by decide

end SpriteRenderer.Text
