import EntityQuery.Decimal.Binary64

/-!
# Decimal numerals

The written form of a number: an optional sign, ASCII digits with at most one
point, and an optional exponent.

    [+-]? ( digits [ . digits? ] | . digits ) ( [eE] [+-]? digits )?

## Main Definitions

* `Numeral.scan?`: reads a whole text as a numeral.
* `Numeral.toInt?`: the value of a numeral without point and exponent.
* `Numeral.toBinary64?`: the nearest floating point number.
* `scanNatural?`: a natural number with an optional plus sign.
-/

namespace EntityQuery.Decimal

/-- One of the ten ASCII digits. -/
def isDigit (c : Char) : Bool :=
  '0' ≤ c && c ≤ '9'

/-- The value of an ASCII digit. -/
def digitValue (c : Char) : Nat :=
  c.toNat - '0'.toNat

/-- The value of a run of digits, most significant first. -/
def natOfDigits (ds : List Char) : Nat :=
  ds.foldl (fun n d => 10 * n + digitValue d) 0

@[simp] theorem natOfDigits_nil : natOfDigits [] = 0 := rfl

/-- A number as it is written. -/
structure Numeral where
  negative : Bool
  /-- The digits before the point. -/
  whole : List Char
  /-- The digits after the point, if there is a point. -/
  fraction : Option (List Char)
  /-- The power of ten, if one is written. -/
  exponent : Option Int
deriving DecidableEq, Repr

namespace Numeral

/-- Takes a leading sign off; the flag is true for a minus sign. -/
def takeSign : List Char → Bool × List Char
  | '-' :: rest => (true, rest)
  | '+' :: rest => (false, rest)
  | s => (false, s)

/-- Reads `[eE] [+-]? digits`, or nothing at all, up to the end of the text. -/
def scanExponent? : List Char → Option (Option Int)
  | [] => some none
  | c :: rest =>
    if c = 'e' ∨ c = 'E' then
      let (negative, ds) := takeSign rest
      if ds.isEmpty || !ds.all isDigit then none
      else
        let n : Int := natOfDigits ds
        some (some (if negative then -n else n))
    else none

/-- Reads a whole text as a numeral. -/
def scan? (s : List Char) : Option Numeral :=
  let (negative, s) := takeSign s
  let whole := s.takeWhile isDigit
  let (fraction, rest) :=
    match s.dropWhile isDigit with
    | '.' :: r => (some (r.takeWhile isDigit), r.dropWhile isDigit)
    | r => (none, r)
  if whole.isEmpty && (fraction.getD []).isEmpty then none
  else (scanExponent? rest).map fun exponent => { negative, whole, fraction, exponent }

/-- The value of a numeral written without point and exponent. -/
def toInt? (x : Numeral) : Option Int :=
  match x.fraction, x.exponent with
  | none, none => some (if x.negative then -(natOfDigits x.whole : Int) else natOfDigits x.whole)
  | _, _ => none

end Numeral

/-- The number nearest to `± digits * 10 ^ exponent`; `none` when it is not finite. -/
def Binary64.ofDecimal? (negative : Bool) (digits : Nat) (exponent : Int) : Option Binary64 :=
  if digits = 0 then some (zero negative)
  -- `10 ^ 400` is beyond every finite number, and `10 ^ (-400)` below half of the least.
  else if 400 < exponent then none
  else if exponent + digits.log2 + 1 < -400 then some (zero negative)
  else if 0 ≤ exponent then ofRatio? negative (digits * Nat.pow 10 exponent.toNat) 1
  else ofRatio? negative digits (Nat.pow 10 (-exponent).toNat)

/-- The number nearest to a numeral; `none` when it is not finite. -/
def Numeral.toBinary64? (x : Numeral) : Option Binary64 :=
  let fraction := x.fraction.getD []
  Binary64.ofDecimal? x.negative (natOfDigits (x.whole ++ fraction))
    (x.exponent.getD 0 - fraction.length)

/-- Reads a natural number below `bound`, written in digits after an optional plus sign. -/
def scanNatural? (bound : Nat) (s : List Char) : Option Nat :=
  let ds := match s with
    | '+' :: rest => rest
    | s => s
  if ds.isEmpty || !ds.all isDigit then none
  else
    let n := natOfDigits ds
    if n < bound then some n else none

end EntityQuery.Decimal
