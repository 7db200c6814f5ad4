/-!
# Binary floating point in exact arithmetic

Finite 64-bit floating point numbers as sign, significand and exponent, and the
rounding of a ratio of natural numbers to the nearest of them.

## Main Definitions

* `Binary64`: the number `± significand * 2 ^ exponent`.
* `Binary64.ofRatio?`: the nearest number to a ratio, a tie going to the even
  significand; `none` beyond the largest finite number.
* `Binary64.mul?`, `Binary64.div?`: the rounded product and quotient.

## Design Notes

Nothing here uses the machine's floating point: significands and scales are
natural numbers, so every rounding is a statement about division.  A number has
one representation, with `exponent = -1074` or a significand of 53 bits, and
equality of the structures is equality of the 64-bit patterns.
-/

namespace EntityQuery.Decimal

/-- A finite number `± significand * 2 ^ exponent`. -/
structure Binary64 where
  negative : Bool
  significand : Nat
  exponent : Int
deriving DecidableEq, Repr

/-- Division rounded to the nearest natural number, a tie going to the even one. -/
def divideToEven (num den : Nat) : Nat :=
  let q := num / den
  let r := num % den
  if 2 * r > den || (2 * r == den && q % 2 == 1) then q + 1 else q

namespace Binary64

/-- The least exponent of a finite number. -/
def minExponent : Int := -1074

/-- The greatest exponent of a finite number. -/
def maxExponent : Int := 971

/-- The least significand of 53 bits. -/
def hiddenBit : Nat := 0x10000000000000

/-- Zero with the given sign. -/
def zero (negative : Bool) : Binary64 :=
  ⟨negative, 0, minExponent⟩

/-- Whether the number is zero, of either sign. -/
def isZero (x : Binary64) : Bool :=
  x.significand == 0

/-- The number with the given sign. -/
def withSign (negative : Bool) (x : Binary64) : Binary64 :=
  { x with negative }

/-- The pair `(num, den * 2 ^ e)`, with a negative power moved to the other side. -/
def scaleDenominator (num den : Nat) (e : Int) : Nat × Nat :=
  if 0 ≤ e then (num, den * Nat.pow 2 e.toNat) else (num * Nat.pow 2 (-e).toNat, den)

/-- The exponent at which `num / den` has a significand of 53 bits, or the least one. -/
def exponentFor (num den : Nat) : Int :=
  let e : Int := (num.log2 : Int) - den.log2 - 52
  let (n, d) := scaleDenominator num den e
  max minExponent (if n / d < hiddenBit then e - 1 else e)

/-- The number nearest to `num / den`, ties to even; `none` when it is not finite. -/
def ofRatio? (negative : Bool) (num den : Nat) : Option Binary64 :=
  if num = 0 then some (zero negative)
  else
    let e := exponentFor num den
    let (n, d) := scaleDenominator num den e
    let m := divideToEven n d
    let (m, e) := if m = 2 * hiddenBit then (hiddenBit, e + 1) else (m, e)
    if maxExponent < e then none else some ⟨negative, m, e⟩

/-- The number nearest to a natural number. -/
def ofNat? (n : Nat) : Option Binary64 :=
  ofRatio? false n 1

/-- The absolute value as a ratio of natural numbers. -/
def ratio (x : Binary64) : Nat × Nat :=
  if 0 ≤ x.exponent then (x.significand * Nat.pow 2 x.exponent.toNat, 1)
  else (x.significand, Nat.pow 2 (-x.exponent).toNat)

/-- The rounded product; `none` when it is not finite. -/
def mul? (x y : Binary64) : Option Binary64 :=
  let (a, b) := x.ratio
  let (c, d) := y.ratio
  ofRatio? (x.negative != y.negative) (a * c) (b * d)

/-- The rounded quotient by a number other than zero; `none` when it is not finite. -/
def div? (x y : Binary64) : Option Binary64 :=
  let (a, b) := x.ratio
  let (c, d) := y.ratio
  ofRatio? (x.negative != y.negative) (a * d) (b * c)

/-- Equality of numbers: the two zeros are one number. -/
def sameNumber (x y : Binary64) : Bool :=
  x == y || (x.isZero && y.isZero)

end Binary64

end EntityQuery.Decimal
