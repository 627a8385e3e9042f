import Tracing.Binary64

/-!
# Tracing.Binary64.Shortest

The shortest decimal that reads back as a given double.

* `shortest x` — digits and exponent of the decimal with the fewest digits among those that round
  to `x`, the one nearest to `x` among them.
* `render x`   — its text: positional from `1e-4` up to `1e16`, with an exponent of at least two
  digits outside, and always a point or an exponent.
-/

namespace Tracing

namespace Binary64

/-- A positive decimal `digits * 10 ^ exponent`. -/
structure Decimal where
  digits : Nat
  exponent : Int
  deriving DecidableEq, Repr

/-- The decimal as a fraction of integers. -/
def Decimal.fraction (d : Decimal) : Nat × Nat :=
  (d.digits * Nat.pow 10 d.exponent.toNat, Nat.pow 10 (-d.exponent).toNat)

/-- Whether a decimal lies where rounding gives `x`. The ends, half a unit away, belong to `x`
exactly if its significand is even; below a power of two the gap is half as wide. -/
def readsBack (x : Binary64) (d : Decimal) : Bool :=
  let (n, m) := d.fraction
  let point := 4 * n * unitsInOne
  let width := Nat.pow 2 x.unit
  let centre := 4 * x.magnitude
  let below := if x.fraction = 0 ∧ 1 < x.biasedExponent then width else 2 * width
  let low := (centre - below) * m
  let high := (centre + 2 * width) * m
  if x.significand % 2 = 0 then decide (low ≤ point ∧ point ≤ high)
  else decide (low < point ∧ point < high)

/-- The distance of a decimal from `x`, as a fraction whose denominator is the decimal's own. -/
def distance (x : Binary64) (d : Decimal) : Nat :=
  let (n, m) := d.fraction
  let point := n * unitsInOne
  let centre := x.magnitude * m
  point - centre + (centre - point)

/-- The least `e` with `x < 10 ^ e`, counted up from `low`. -/
def decimalPoint (x : Binary64) : Nat → Int → Int
  | 0, low => low
  | fuel + 1, low =>
    if x.magnitude * Nat.pow 10 (-low).toNat < unitsInOne * Nat.pow 10 low.toNat then low
    else decimalPoint x fuel (low + 1)

/-- The nearer of the two neighbours of `x` on the grid `10 ^ exponent`, of those that read back. -/
def onGrid (x : Binary64) (exponent : Int) : Option Decimal :=
  let floor := x.magnitude * Nat.pow 10 (-exponent).toNat /
    (unitsInOne * Nat.pow 10 exponent.toNat)
  let below : Decimal := ⟨floor, exponent⟩
  let above : Decimal := ⟨floor + 1, exponent⟩
  match readsBack x below, readsBack x above with
  | false, false => none
  | true, false => some below
  | false, true => some above
  | true, true =>
    if distance x below < distance x above then some below
    else if distance x above < distance x below then some above
    else some (if floor % 2 = 0 then below else above)

/-- The first grid with a neighbour that reads back, from the coarsest on. -/
def firstGrid (x : Binary64) (point : Int) : Nat → Nat → Decimal
  | 0, count => ⟨0, point - count⟩
  | fuel + 1, count =>
    match onGrid x (point - count) with
    | some d => d
    | none => firstGrid x point fuel (count + 1)

/-- Seventeen digits always suffice, and every finite double lies between `1e-324` and `1e309`. -/
def shortest (x : Binary64) : Decimal := firstGrid x (decimalPoint x 640 (-324)) 17 1

/-- Digits without trailing zeros, with the exponent that makes up for them. -/
def Decimal.trim : Nat → Decimal → Decimal
  | 0, d => d
  | fuel + 1, d =>
    if d.digits % 10 = 0 ∧ d.digits ≠ 0 then trim fuel ⟨d.digits / 10, d.exponent + 1⟩ else d

def zeros (n : Nat) : List Char := List.replicate n '0'

/-- The exponent of scientific notation: a sign and at least two digits. -/
def exponentText (e : Int) : List Char :=
  let digits := Nat.toDigits 10 e.natAbs
  (if e < 0 then '-' else '+') :: (zeros (2 - digits.length) ++ digits)

/-- Positional text from `1e-4` up to `1e16`, scientific text outside. -/
def Decimal.render (d : Decimal) : List Char :=
  let digits := Nat.toDigits 10 d.digits
  let point : Int := digits.length + d.exponent
  if -4 < point ∧ point ≤ 16 then
    if point ≤ 0 then '0' :: '.' :: (zeros (-point).toNat ++ digits)
    else if (digits.length : Int) ≤ point then
      digits ++ zeros (point - digits.length).toNat ++ ['.', '0']
    else digits.take point.toNat ++ '.' :: digits.drop point.toNat
  else
    match digits with
    | [d] => d :: 'e' :: exponentText (point - 1)
    | d :: rest => d :: '.' :: (rest ++ 'e' :: exponentText (point - 1))
    | [] => []

def render (x : Binary64) : String :=
  if x.isNaN then "nan"
  else
    let body :=
      if x.isInfinite then "inf".toList
      else if x.isZero then "0.0".toList
      else ((shortest x).trim 20).render
    String.ofList (if x.negative then '-' :: body else body)

end Binary64

end Tracing
