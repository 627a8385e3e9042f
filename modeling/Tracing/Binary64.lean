/-!
# Tracing.Binary64

IEEE-754 doubles as words. Order and equality are decided on exact integers:

* `scaled x`       — a finite double `x` is `scaled x / 2 ^ 1074`.
* `compareInt x n` — the order of a double and an integer of any size, `none` for a NaN.
* `compare x y`    — the order of two doubles, `none` beside a NaN.
* `ofDecimal`      — the double nearest to `digits * 10 ^ exponent`, a tie going to the even word.
-/

namespace Tracing

/-- A double, by its bits. -/
structure Binary64 where
  bits : UInt64
  deriving DecidableEq, Repr

namespace Binary64

/-- The one NaN that a text can name. -/
def nan : Binary64 := ⟨0x7ff8000000000000⟩

def infinity (negative : Bool) : Binary64 :=
  ⟨if negative then 0xfff0000000000000 else 0x7ff0000000000000⟩

def word (x : Binary64) : Nat := x.bits.toNat

/-! ## Fields -/

def negative (x : Binary64) : Bool := x.word / Nat.pow 2 63 == 1

def biasedExponent (x : Binary64) : Nat := x.word / Nat.pow 2 52 % Nat.pow 2 11

def fraction (x : Binary64) : Nat := x.word % Nat.pow 2 52

def isNaN (x : Binary64) : Bool := x.biasedExponent == 2047 && x.fraction != 0

def isInfinite (x : Binary64) : Bool := x.biasedExponent == 2047 && x.fraction == 0

def isFinite (x : Binary64) : Bool := x.biasedExponent != 2047

/-- The significand of a finite double, in units of `2 ^ unit x`. -/
def significand (x : Binary64) : Nat :=
  if x.biasedExponent = 0 then x.fraction else Nat.pow 2 52 + x.fraction

/-- The exponent of the last place, counted from the smallest one, `2 ^ -1074`. -/
def unit (x : Binary64) : Nat := x.biasedExponent - 1

/-- The number of the smallest units in one. -/
def unitsInOne : Nat := Nat.pow 2 1074

/-- The distance from zero, in units of `2 ^ -1074`. An infinity lies beyond every finite double. -/
def magnitude (x : Binary64) : Nat := x.significand * Nat.pow 2 x.unit

def scaled (x : Binary64) : Int :=
  if x.negative then -(x.magnitude : Int) else x.magnitude

def isZero (x : Binary64) : Bool := x.magnitude == 0

/-! ## Order -/

def compare (x y : Binary64) : Option Ordering :=
  if x.isNaN || y.isNaN then none else some (Ord.compare x.scaled y.scaled)

def compareInt (x : Binary64) (n : Int) : Option Ordering :=
  if x.isNaN then none
  else if x.isInfinite then some (if x.negative then .lt else .gt)
  else some (Ord.compare x.scaled (n * unitsInOne))

/-- The integer that a double equals, if there is one. -/
def toInt? (x : Binary64) : Option Int :=
  if x.isFinite && x.scaled % unitsInOne == 0 then some (x.scaled / unitsInOne) else none

/-! ## Rounding -/

/-- The quotient rounded to an integer, a half going to the even neighbour. -/
def roundHalfEven (numerator denominator : Nat) : Nat :=
  let q := numerator / denominator
  let r := numerator % denominator
  if 2 * r < denominator then q
  else if denominator < 2 * r then q + 1
  else q + q % 2

/-- The word of the double nearest to `numerator / denominator`, both positive, without its sign.
A significand rounded up to `2 ^ 53` carries into the exponent by the addition. -/
def nearestWord (numerator denominator : Nat) : Nat :=
  let target := numerator * unitsInOne
  let shift := (target / denominator).log2 - 52
  min (shift * Nat.pow 2 52 + roundHalfEven target (denominator * Nat.pow 2 shift))
    (2047 * Nat.pow 2 52)

/-- The number of decimal digits of a positive number. -/
def decimalLength (n : Nat) : Nat := (Nat.toDigits 10 n).length

/-- The double nearest to `± digits * 10 ^ exponent`. Numbers of more than 310 places before the
point are beyond the largest double, and numbers with 330 zeros behind it round to zero, so no
huge power is formed for them. -/
def ofDecimal (negative : Bool) (digits : Nat) (exponent : Int) : Binary64 :=
  let places := (decimalLength digits : Int) + exponent
  let word :=
    if digits = 0 ∨ places < -330 then 0
    else if 310 < places then 2047 * Nat.pow 2 52
    else nearestWord (digits * Nat.pow 10 exponent.toNat) (Nat.pow 10 (-exponent).toNat)
  ⟨(if negative then Nat.pow 2 63 + word else word).toUInt64⟩

end Binary64

end Tracing
