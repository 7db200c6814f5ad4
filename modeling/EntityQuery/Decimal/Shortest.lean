import EntityQuery.Decimal.Binary64

/-!
# Shortest decimal text

The fewest decimal digits that read back as a given number, and their layout as
text.

## Main Definitions

* `shortest`: digits and scientific exponent of the shortest decimal inside the
  interval of reals that round to a number; of two such, the nearer.
* `Layout`: where positional notation ends and how an exponent is written.
* `Layout.text`: a number as text.

## Design Notes

The interval of reals that round to `m * 2 ^ q` is brought to integers by one
common scale, and the grid of `n` digits is tried for `n = 1, 2, …, 17`.  On a
grid only the two neighbours of the number matter: if any grid point lies in the
interval, one of them does.
-/

namespace EntityQuery.Decimal

/-- A positive decimal `digits * 10 ^ (exponent + 1 - length of digits)`, first digit not zero. -/
structure Shortest where
  digits : List Char
  exponent : Int
deriving DecidableEq, Repr

/-- A number and the ends of its rounding interval over one denominator. -/
structure Interval where
  low : Nat
  value : Nat
  high : Nat
  denominator : Nat
  /-- The ends themselves round to the number. -/
  closed : Bool
deriving Repr

namespace Interval

/-- The reals that round to a number other than zero. -/
def ofBinary64 (x : Binary64) : Interval :=
  let m := x.significand
  -- Below a power of two the next smaller number is half a step away.
  let belowStep := if m = Binary64.hiddenBit ∧ Binary64.minExponent < x.exponent then 1 else 2
  let e := x.exponent - 2
  let (scale, denominator) := if 0 ≤ e then (Nat.pow 2 e.toNat, 1) else (1, Nat.pow 2 (-e).toNat)
  { low := (4 * m - belowStep) * scale
    value := 4 * m * scale
    high := (4 * m + 2) * scale
    denominator
    closed := m % 2 == 0 }

/-- Whether `n / d` lies in the interval. -/
def contains (i : Interval) (n d : Nat) : Bool :=
  let a := i.low * d
  let x := n * i.denominator
  let b := i.high * d
  if i.closed then a ≤ x && x ≤ b else a < x && x < b

end Interval

/-- The exponent `k` with `10 ^ k ≤ num / den < 10 ^ (k + 1)`, searched upward from `k`. -/
def magnitudeFrom (num den : Nat) : Nat → Int → Int
  | 0, k => k
  | fuel + 1, k =>
    let (a, b) := if 0 ≤ k + 1 then (num, den * Nat.pow 10 (k + 1).toNat)
      else (num * Nat.pow 10 (-(k + 1)).toNat, den)
    if a < b then k else magnitudeFrom num den fuel (k + 1)

/-- The exponent of the first decimal digit of `num / den`. -/
def magnitude (num den : Nat) : Int :=
  -- Two binary digits are less than one decimal digit, so this starts at or below the answer.
  let bits : Int := (num.log2 : Int) - den.log2 - 1
  magnitudeFrom num den 8 (bits * 1233 / 4096 - 2)

/-- The decimal digits of a natural number. -/
def digitsOf (n : Nat) : List Char :=
  Nat.toDigits 10 n

/-- The point of the grid of `n` digits nearest to the value, if it is in the interval. -/
def gridPoint? (i : Interval) (k : Int) (n : Nat) : Option Nat :=
  let step : Int := k + 1 - n
  -- The grid points are `c * up / down`.
  let (up, down) := if 0 ≤ step then (Nat.pow 10 step.toNat, 1) else (1, Nat.pow 10 (-step).toNat)
  let num := i.value * down
  let den := i.denominator * up
  let c := num / den
  let r := num % den
  let here := i.contains (c * up) down
  let next := i.contains ((c + 1) * up) down
  match here, next with
  | false, false => none
  | true, false => some c
  | false, true => some (c + 1)
  | true, true =>
    if 2 * r < den || (2 * r == den && c % 2 == 0) then some c else some (c + 1)

/-- The first grid with a point in the interval. -/
def firstGridPoint (i : Interval) (k : Int) : (fuel n : Nat) → Nat × Nat
  | 0, n => (0, n)
  | fuel + 1, n =>
    match gridPoint? i k n with
    | some c => (c, n)
    | none => firstGridPoint i k fuel (n + 1)

/-- The digits without their trailing zeros. -/
def dropTrailingZeros (ds : List Char) : List Char :=
  (ds.reverse.dropWhile (· == '0')).reverse

/-- The shortest decimal that rounds to a number other than zero. -/
def shortest (x : Binary64) : Shortest :=
  let i := Interval.ofBinary64 x
  let k := magnitude i.value i.denominator
  let (c, n) := firstGridPoint i k 17 1
  let ds := digitsOf c
  { digits := dropTrailingZeros ds
    exponent := k + (ds.length - n : Int) }

/-- How a decimal is laid out as text. -/
structure Layout where
  /-- The least exponent that is written positionally. -/
  leastPositional : Int
  /-- The greatest exponent that is written positionally. -/
  greatestPositional : Int
  /-- The sign before an exponent that is not negative. -/
  exponentPlus : String
deriving Repr

namespace Layout

/-- Digits with the point after the first `k + 1` of them; a whole number ends in `.0`. -/
def positional (ds : List Char) (k : Int) : List Char :=
  if k < 0 then
    '0' :: '.' :: (List.replicate (-k - 1).toNat '0' ++ ds)
  else
    let whole := k.toNat + 1
    if ds.length ≤ whole then
      ds ++ List.replicate (whole - ds.length) '0' ++ ['.', '0']
    else
      ds.take whole ++ '.' :: ds.drop whole

/-- Digits with the point after the first, and a decimal exponent. -/
def scientific (layout : Layout) (ds : List Char) (k : Int) : List Char :=
  let mantissa :=
    match ds with
    | d :: e :: rest => d :: '.' :: e :: rest
    | ds => ds
  let sign := if k < 0 then "-" else layout.exponentPlus
  mantissa ++ 'e' :: sign.toList ++ digitsOf k.natAbs

/-- A number as text. -/
def text (layout : Layout) (x : Binary64) : String :=
  let sign := if x.negative then ['-'] else []
  let body :=
    if x.isZero then ['0', '.', '0']
    else
      let s := shortest x
      if layout.leastPositional ≤ s.exponent && s.exponent ≤ layout.greatestPositional then
        positional s.digits s.exponent
      else layout.scientific s.digits s.exponent
  String.ofList (sign ++ body)

end Layout

end EntityQuery.Decimal
