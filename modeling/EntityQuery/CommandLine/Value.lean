import EntityQuery.Decimal.Numeral
import EntityQuery.SortOrder

/-!
# Option values

The values of command line options that are more than a text: assignments,
ranges, sorts and counts.

## Main Definitions

* `Assignment.ofText`: `FIELD=VALUE`.
* `RangeAssignment.ofText`: `FIELD=LOWER..UPPER`.
* `sortKeyOf`: `FIELD` or `FIELD:DIRECTION`.
* `countOf`: a 32-bit count.
* `ValueFault`: why a text is no such value.

## Design Notes

A field ends at the first equals sign, a lower bound at the first two full
stops, but a sort field at the last colon: fields may contain colons.
-/

namespace EntityQuery.CommandLine

/-- Why a text is no value of an option. -/
inductive ValueFault where
  | notAssignment (raw : String)
  | missingField (raw : String)
  | notRange (raw : String)
  | notDirection (error : SortError)
  | emptyNumber
  | invalidDigit
  | numberTooLarge
  | numberTooSmall
  | notCount (value : Int)
deriving DecidableEq, Repr

/-- The wording of a fault. -/
def ValueFault.message : ValueFault → String
  | .notAssignment raw => s!"expected FIELD=VALUE, got '{raw}'"
  | .missingField raw => s!"missing field in '{raw}'"
  | .notRange raw => s!"expected LOWER..UPPER, got '{raw}'"
  | .notDirection error => error.message
  | .emptyNumber => "cannot parse integer from empty string"
  | .invalidDigit => "invalid digit found in string"
  | .numberTooLarge => "number too large to fit in target type"
  | .numberTooSmall => "number too small to fit in target type"
  | .notCount value => s!"{value} is not in 0..=4294967295"

/-- A field and what is assigned to it. -/
structure Assignment where
  field : String
  value : String
deriving DecidableEq, Repr

/-- A field and two bounds. -/
structure RangeAssignment where
  field : String
  lower : String
  upper : String
deriving DecidableEq, Repr

/-- Reads `FIELD=VALUE`. -/
def Assignment.ofText (raw : String) : Except ValueFault Assignment :=
  match Text.cutFirst '=' raw.toList with
  | none => .error (.notAssignment raw)
  | some (field, value) =>
    if field = [] then .error (.missingField raw)
    else .ok { field := String.ofList field, value := String.ofList value }

/-- Reads `FIELD=LOWER..UPPER`. -/
def RangeAssignment.ofText (raw : String) : Except ValueFault RangeAssignment := do
  let a ← Assignment.ofText raw
  match Text.cutFirstPair '.' a.value.toList with
  | none => throw (.notRange a.value)
  | some (lower, upper) =>
    pure { field := a.field, lower := String.ofList lower, upper := String.ofList upper }

/-- Reads `FIELD` or `FIELD:DIRECTION`. -/
def sortKeyOf (raw : String) : Except ValueFault SortKey := do
  let key ← match Text.cutLast ':' raw.toList with
    | none => pure { field := raw, direction := .asc }
    | some (field, direction) =>
      match Direction.ofName (String.ofList direction) with
      | .ok direction => pure { field := String.ofList field, direction }
      | .error e => throw (.notDirection e)
  if key.field = "" then throw (.missingField raw)
  pure key

/-- Adds digits to a number, as long as it stays below a bound. -/
def readDigits (bound : Nat) (overflow : ValueFault) (n : Nat) : List Char → Except ValueFault Nat
  | [] => .ok n
  | d :: ds =>
    if !Decimal.isDigit d then .error .invalidDigit
    else
      let n := 10 * n + Decimal.digitValue d
      if n < bound then readDigits bound overflow n ds else .error overflow

/-- Reads a signed 64-bit integer. -/
def integerOf (raw : String) : Except ValueFault Int :=
  match raw.toList with
  | [] => .error .emptyNumber
  | c :: rest =>
    let digits := if c = '-' || c = '+' then rest else c :: rest
    if digits = [] then .error .invalidDigit
    else if c = '-' then
      (readDigits (UInt64.size / 2 + 1) .numberTooSmall 0 digits).map fun n => -(n : Int)
    else (readDigits (UInt64.size / 2) .numberTooLarge 0 digits).map fun n => (n : Int)

/-- Reads a 32-bit count. -/
def countOf (raw : String) : Except ValueFault UInt32 := do
  let n ← integerOf raw
  if n < 0 || (UInt32.size : Int) ≤ n then throw (.notCount n)
  pure n.toNat.toUInt32

end EntityQuery.CommandLine
