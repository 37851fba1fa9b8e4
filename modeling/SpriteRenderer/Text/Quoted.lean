import SpriteRenderer.Text.Extender
import SpriteRenderer.Text.Unprintable

/-! # Quoted texts

A text between double quotes in which every character can be told apart: quotes, backslashes
and line breaks are escaped by a letter, and what cannot be seen by its code point. -/

namespace SpriteRenderer.Text

/-- The code point of a character in hexadecimal digits. -/
def codeEscape (c : Char) : List Char :=
  "\\u".toList ++ '\x7b' :: Nat.toDigits 16 c.toNat ++ ['\x7d']

def escape (c : Char) : List Char :=
  match c with
  | '\x00' => ['\\', '0']
  | '\t' => ['\\', 't']
  | '\r' => ['\\', 'r']
  | '\n' => ['\\', 'n']
  | '\\' => ['\\', '\\']
  | '"' => ['\\', '"']
  | c =>
    if 0x20 ≤ c.toNat && c.toNat < 0x7f then [c]
    else if isExtender c || isUnprintable c then codeEscape c
    else [c]

def quoted (s : String) : String := .ofList ('"' :: s.toList.flatMap escape ++ ['"'])

end SpriteRenderer.Text
