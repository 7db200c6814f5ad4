import EntityQuery.Json.Source
import EntityQuery.Text.Blank

/-!
# Scalar operands

The operands of filters, and the rule by which typed text becomes a number.

## Main Definitions

* `Scalar`: a truth value, a number, or a text.
* `Scalar.ofJson?`, `Scalar.toJson`: scalars as JSON values.
* `Scalar.isNumeral`: whether a text is a numeral between blanks.
* `Scalar.ofTyped`: the scalar that is meant by a typed text, which is a number
  if the text is a numeral, else the text unchanged.

## Design Notes

An integer that fits 64 bits is kept exactly.  Any other numeral becomes the
nearest floating point number, unless that is infinite: infinity has no JSON
form, so the text is kept.
-/

namespace EntityQuery

open Decimal

/-- One operand of a filter. -/
inductive Scalar where
  | bool (b : Bool)
  | number (n : Number)
  | text (s : String)
deriving BEq, Repr

namespace Scalar

/-- The text of a scalar on its own. -/
def display : Scalar → String
  | .bool b => toString b
  | .number n => n.text
  | .text s => s

/-- A scalar as a JSON value. -/
def toJson : Scalar → Json
  | .bool b => .bool b
  | .number n => .number n
  | .text s => .string s

/-- The scalar that a JSON value is. -/
def ofJson? : Json → Option Scalar
  | .bool b => some (.bool b)
  | .number n => some (.number n)
  | .string s => some (.text s)
  | .null => none
  | .array _ => none
  | .object _ => none

@[simp] theorem ofJson?_toJson (s : Scalar) : ofJson? s.toJson = some s := by
  cases s <;> rfl

theorem eq_toJson_of_ofJson? {v : Json} {s : Scalar} (h : ofJson? v = some s) : v = s.toJson := by
  cases v <;> simp [ofJson?] at h <;> subst h <;> rfl

/-- The description of a scalar as a record part. -/
def description {m : Type → Type} [Json.Source m] : m Scalar := do
  match ofJson? (← Json.Source.anything) with
  | some s => pure s
  | none => Json.Source.refuse (.other "data did not match any variant of untagged enum Scalar")

/-- The integers of 64 bits. -/
def isInt64 (n : Int) : Bool :=
  let half : Int := (UInt64.size / 2 : Nat)
  n < half && -half ≤ n

/-- The number that a numeral stands for, if it has a finite value. -/
def ofNumeral? (x : Numeral) : Option Number :=
  match x.toInt?.filter isInt64 with
  | some n => some (.integer n)
  | none => x.toBinary64?.map .float

/-- Whether a text is a numeral, blanks at its ends aside. -/
def isNumeral (typed : String) : Bool :=
  (Numeral.scan? (Text.trim typed.toList)).isSome

/-- The number that a text is written as, or else the text itself. -/
def ofTyped (typed : String) : Scalar :=
  match (Numeral.scan? (Text.trim typed.toList)).bind ofNumeral? with
  | some n => .number n
  | none => .text typed

end Scalar

end EntityQuery
