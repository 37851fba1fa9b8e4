import SpriteRenderer.Single

/-! # Shortest decimal texts

A number is written with the fewest digits from which it can be read back, and of the decimals
with so few digits by the nearest. Magnitudes are compared exactly, in quarters of the unit
2⁻¹⁴⁹, so that the bounds of the interval that rounds to a number are integers. -/

namespace SpriteRenderer.Single

/-- The decimals that are read back as one magnitude. -/
structure Interval where
  lower : Nat
  middle : Nat
  upper : Nat
  /-- The bounds belong to the interval. -/
  closed : Bool
deriving DecidableEq, Repr

/-- Halfway to the neighbours on both sides. Below a power of two they lie closer. -/
def interval (x : Single) : Interval :=
  let gap := 1 <<< x.scale
  let below := if x.fraction = 0 ∧ 1 < x.exponent then gap else 2 * gap
  let middle := 4 * x.magnitude
  { lower := middle - below, middle, upper := middle + 2 * gap,
    closed := x.significand % 2 = 0 }

/-- A decimal number: its value is `digits * 10 ^ exponent`. -/
structure Decimal where
  digits : Nat
  exponent : Int
deriving DecidableEq, Repr

namespace Decimal

/-- The power of ten. -/
def tenTo (n : Nat) : Nat := Nat.pow 10 n

/-- Numerator and denominator in quarters of a unit. -/
def quarters (d : Decimal) : Nat × Nat :=
  if 0 ≤ d.exponent then ((d.digits * tenTo d.exponent.toNat) <<< 151, 1)
  else (d.digits <<< 151, tenTo (-d.exponent).toNat)

def inside (d : Decimal) (i : Interval) : Bool :=
  let (num, den) := d.quarters
  if i.closed then i.lower * den ≤ num && num ≤ i.upper * den
  else i.lower * den < num && num < i.upper * den

/-- The distance to the middle of an interval, times the denominator. -/
def distance (d : Decimal) (i : Interval) : Nat :=
  let (num, den) := d.quarters
  (num - i.middle * den) + (i.middle * den - num)

/-- The greatest multiple of the power of ten that is not above the middle of an interval. -/
def floor (i : Interval) (exponent : Int) : Decimal :=
  if 0 ≤ exponent then ⟨i.middle / (tenTo exponent.toNat <<< 151), exponent⟩
  else ⟨(i.middle * tenTo (-exponent).toNat) >>> 151, exponent⟩

/-- The nearest multiple of `10 ^ exponent` inside the interval. Of two equally near ones it
is the greater. -/
def nearest? (i : Interval) (exponent : Int) : Option Decimal :=
  let low := floor i exponent
  let high : Decimal := ⟨low.digits + 1, exponent⟩
  match low.inside i, high.inside i with
  | true, true => if low.distance i < high.distance i then some low else some high
  | true, false => some low
  | false, true => some high
  | false, false => none

end Decimal

/-- The position of the leading digit: the magnitude is below `10 ^ order` and not below
a tenth of that. -/
def order (i : Interval) : Int :=
  ((List.range 86).map fun n : Nat => (n : Int) - 46).find? (fun k => (Decimal.floor i k).digits = 0)
    |>.getD 40

/-- Tries more and more digits. Nine always suffice. -/
def shortestFrom (i : Interval) (order : Int) (count fuel : Nat) : Decimal :=
  match fuel with
  | 0 => Decimal.floor i (order - count)
  | fuel + 1 =>
    match Decimal.nearest? i (order - count) with
    | some d => d
    | none => shortestFrom i order (count + 1) fuel

def shortest (x : Single) : Decimal :=
  let i := x.interval
  shortestFrom i (order i) 1 9

/-- Digits without zeros at their end, and the power of ten that the number is below. -/
def digitsAndOrder (d : Decimal) : List Char × Int :=
  let digits := Nat.toDigits 10 d.digits
  ((digits.reverse.dropWhile (· = '0')).reverse, digits.length + d.exponent)

/-- Digits around a decimal point, at least one on either side. -/
def positional (digits : List Char) (order : Int) : List Char :=
  if order ≤ 0 then "0.".toList ++ List.replicate (-order).toNat '0' ++ digits
  else
    let whole := order.toNat
    let fraction := digits.drop whole
    digits.take whole ++ List.replicate (whole - digits.length) '0' ++
      '.' :: (if fraction.isEmpty then ['0'] else fraction)

/-- One digit before the point, and a power of ten. -/
def scientific (digits : List Char) (order : Int) : List Char :=
  let fraction := digits.drop 1
  digits.take 1 ++ (if fraction.isEmpty then [] else '.' :: fraction) ++
    'e' :: (toString (order - 1)).toList

/-- Numbers from 10⁻⁴ up to 10¹⁶ are written positionally. -/
def magnitudeText (x : Single) : List Char :=
  if x.magnitude = 0 then "0.0".toList
  else
    let (digits, order) := digitsAndOrder x.shortest
    if -3 ≤ order ∧ order ≤ 16 then positional digits order else scientific digits order

/-- The shortest text that tells the number from every other. -/
def text (x : Single) : String :=
  if x.isNaN then "NaN"
  else
    let sign := if x.isNegative then ['-'] else []
    let magnitude := if x.isInfinite then "inf".toList else x.magnitudeText
    .ofList (sign ++ magnitude)

end SpriteRenderer.Single
