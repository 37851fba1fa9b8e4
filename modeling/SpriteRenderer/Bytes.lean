/-! # Words as bytes

Words are stored least significant byte first. -/

namespace SpriteRenderer.Bytes

/-- The four bytes of a word. -/
def ofWord (w : UInt32) : List UInt8 :=
  [w.toUInt8, (w >>> 8).toUInt8, (w >>> 16).toUInt8, (w >>> 24).toUInt8]

/-- The word of four bytes. -/
def toWord (a b c d : UInt8) : UInt32 :=
  a.toUInt32 ||| b.toUInt32 <<< 8 ||| c.toUInt32 <<< 16 ||| d.toUInt32 <<< 24

@[simp] theorem length_ofWord (w : UInt32) : (ofWord w).length = 4 := rfl

/-- The bytes of several words in order. -/
def ofWords (ws : List UInt32) : List UInt8 := ws.flatMap ofWord

@[simp] theorem length_ofWords (ws : List UInt32) : (ofWords ws).length = 4 * ws.length := by
  induction ws with
  | nil => rfl
  | cons w ws ih => simp_all [ofWords]; omega

/-- The lowest `n` bytes of an integer in two's complement. -/
def ofInt (n : Nat) (v : Int) : List UInt8 :=
  match n with
  | 0 => []
  | n + 1 => UInt8.ofInt v :: ofInt n (v / 256)

@[simp] theorem length_ofInt (n : Nat) (v : Int) : (ofInt n v).length = n := by
  induction n generalizing v with
  | zero => rfl
  | succ n ih => simp [ofInt, ih]

end SpriteRenderer.Bytes
