/-! # Single-precision numbers

A number is kept as its bit pattern, so copying one never changes it, payloads of
NaNs included. Every finite magnitude is a whole number of units of 2⁻¹⁴⁹, which
makes the few operations here exact integer arithmetic followed by one rounding. -/

namespace SpriteRenderer

/-- The 32-bit pattern of an IEEE single. -/
structure Single where
  bits : UInt32
deriving DecidableEq, Repr

namespace Single

def zero : Single := ⟨0⟩

def one : Single := ⟨0x3f800000⟩

def isNegative (x : Single) : Bool := 0x80000000 ≤ x.bits.toNat

/-- The biased exponent, from 0 to 255. -/
def exponent (x : Single) : Nat := x.bits.toNat / 0x800000 % 256

def fraction (x : Single) : Nat := x.bits.toNat % 0x800000

def isNaN (x : Single) : Bool := x.exponent = 255 ∧ x.fraction ≠ 0

def isInfinite (x : Single) : Bool := x.exponent = 255 ∧ x.fraction = 0

/-- The significand with its leading bit, which subnormal numbers lack. -/
def significand (x : Single) : Nat :=
  if x.exponent = 0 then x.fraction else 0x800000 + x.fraction

/-- The power of two, in units of 2⁻¹⁴⁹, that the significand counts. -/
def scale (x : Single) : Nat := x.exponent - 1

/-- The absolute value in units of 2⁻¹⁴⁹. -/
def magnitude (x : Single) : Nat := x.significand <<< x.scale

/-- Equality of the numbers: a NaN equals nothing, the two zeros are equal. -/
def numEq (x y : Single) : Bool :=
  !x.isNaN && !y.isNaN && (x.bits == y.bits || (x.magnitude == 0 && y.magnitude == 0))

/-- The quotient rounded to the nearest integer, a half going to the even one. -/
def divideToEven (num den : Nat) : Nat :=
  let q := num / den
  let r := 2 * (num % den)
  if den < r ∨ (r = den ∧ q % 2 = 1) then q + 1 else q

/-- The single nearest to `num / den` units of 2⁻¹⁴⁹. A carry out of the significand
runs into the exponent field, which is the next binade. -/
def ofUnits (num den : Nat) : Single :=
  let shift := (num / den).log2 - 23
  ⟨.ofNat (shift * 0x800000 + divideToEven num (den <<< shift))⟩

/-- The share `n / 255` of full intensity. -/
def ofByte (n : UInt8) : Single := ofUnits (n.toNat <<< 149) 255

/-- Intensity as a byte: clamped to [0, 1], multiplied by 255 and rounded, a half going up.
A NaN gives 0. -/
def toByte (x : Single) : UInt8 :=
  if x.isNaN || x.isNegative then 0
  else
    let product := (ofUnits (min x.magnitude (1 <<< 149) * 255) 1).magnitude
    .ofNat ((2 * product + 1 <<< 149) >>> 150)

/-- The bit pattern of the same number in double precision. A NaN keeps its payload and
becomes quiet. -/
def toDoubleBits (x : Single) : Nat :=
  let sign := if x.isNegative then 1 <<< 63 else 0
  if x.exponent = 255 then
    let quiet := if x.fraction = 0 then 0 else 1 <<< 51
    sign + 2047 <<< 52 + (x.fraction <<< 29 ||| quiet)
  else if x.magnitude = 0 then sign
  else
    let top := x.magnitude.log2
    sign + (top + 874) <<< 52 + (x.magnitude <<< 52 >>> top - 1 <<< 52)

example : ofByte 0 = zero ∧ ofByte 255 = one ∧ ofByte 128 = ⟨0x3f008081⟩ := by decide +kernel

example : toByte one = 255 ∧ toByte ⟨0x7fc00000⟩ = 0 ∧ toByte ⟨0x3f000000⟩ = 128 := by
  decide +kernel

example : toDoubleBits ⟨0x3f400000⟩ = 0x3fe8000000000000 := by decide +kernel

end Single

end SpriteRenderer
