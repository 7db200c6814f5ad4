import EntityQuery.Json.Basic
import EntityQuery.Text.Hex

/-!
# JSON text

Writing JSON values, compactly on one line or indented over several.

## Main Definitions

* `Json.quoteChars`: a string between quotes, with the escapes that JSON requires.
* `Number.text`: a number; a floating point number always shows a point or an exponent.
* `Json.compact`: a value without any blank outside strings.
* `Json.pretty`: a value with one member or item a line.

## Design Notes

Members are written in the order in which the value holds them, so one printer
serves values in normal form and values in an order of their own.
-/

namespace EntityQuery

open Decimal

/-- Floating point numbers are written positionally from `0.00001` up to sixteen whole digits. -/
def Number.layout : Layout :=
  { leastPositional := -5, greatestPositional := 15, exponentPlus := "+" }

/-- A number as JSON text. -/
def Number.text : Number → String
  | .integer n => toString n
  | .float x => Number.layout.text x

namespace Json

/-- What stands for a character inside quotes. -/
def escapeChar (c : Char) : List Char :=
  if c = '"' then ['\\', '"']
  else if c = '\\' then ['\\', '\\']
  else if c = '\n' then ['\\', 'n']
  else if c = '\r' then ['\\', 'r']
  else if c = '\t' then ['\\', 't']
  else if c.toNat = 0x08 then ['\\', 'b']
  else if c.toNat = 0x0C then ['\\', 'f']
  else if c.toNat < 0x20 then
    ['\\', 'u', '0', '0', Text.lowerHexDigit (c.toNat / 16), Text.lowerHexDigit (c.toNat % 16)]
  else [c]

/-- The characters of a string as they stand inside quotes. -/
def escape (s : List Char) : List Char :=
  s.flatMap escapeChar

@[simp] theorem escape_nil : escape [] = [] := rfl

@[simp] theorem escape_cons (c : Char) (s : List Char) :
    escape (c :: s) = escapeChar c ++ escape s := rfl

/-- A string between quotes. -/
def quoteChars (s : String) : List Char :=
  '"' :: (escape s.toList ++ ['"'])

mutual

/-- The characters of a value without blanks outside strings. -/
def compactChars : Json → List Char
  | .null => ['n', 'u', 'l', 'l']
  | .bool true => ['t', 'r', 'u', 'e']
  | .bool false => ['f', 'a', 'l', 's', 'e']
  | .number n => n.text.toList
  | .string s => quoteChars s
  | .array [] => ['[', ']']
  | .array (v :: rest) => '[' :: (compactChars v ++ compactItems rest)
  | .object [] => ['\x7b', '\x7d']
  | .object ((name, v) :: rest) =>
    '\x7b' :: (quoteChars name ++ ':' :: (compactChars v ++ compactMembers rest))
termination_by structural v => v

/-- The items after the first, and the closing bracket. -/
def compactItems : List Json → List Char
  | [] => [']']
  | v :: rest => ',' :: (compactChars v ++ compactItems rest)
termination_by structural items => items

/-- The members after the first, and the closing brace. -/
def compactMembers : List (String × Json) → List Char
  | [] => ['\x7d']
  | (name, v) :: rest =>
    ',' :: (quoteChars name ++ ':' :: (compactChars v ++ compactMembers rest))
termination_by structural members => members

end

/-- A value on one line, without blanks outside strings. -/
def compact (v : Json) : String :=
  String.ofList (compactChars v)

/-- The start of a line at a nesting level, two blanks a level. -/
def newLine (level : Nat) : List Char :=
  '\n' :: List.replicate (2 * level) ' '

mutual

/-- The characters of a value with one item or member a line. -/
def prettyChars (level : Nat) : Json → List Char
  | .null => ['n', 'u', 'l', 'l']
  | .bool true => ['t', 'r', 'u', 'e']
  | .bool false => ['f', 'a', 'l', 's', 'e']
  | .number n => n.text.toList
  | .string s => quoteChars s
  | .array [] => ['[', ']']
  | .array (v :: rest) =>
    '[' :: (newLine (level + 1) ++ prettyChars (level + 1) v ++ prettyItems level rest)
  | .object [] => ['\x7b', '\x7d']
  | .object ((name, v) :: rest) =>
    '\x7b' :: (newLine (level + 1) ++ quoteChars name ++
      ':' :: ' ' :: (prettyChars (level + 1) v ++ prettyMembers level rest))
termination_by structural v => v

/-- The items after the first, and the closing bracket. -/
def prettyItems (level : Nat) : List Json → List Char
  | [] => newLine level ++ [']']
  | v :: rest =>
    ',' :: (newLine (level + 1) ++ prettyChars (level + 1) v ++ prettyItems level rest)
termination_by structural items => items

/-- The members after the first, and the closing brace. -/
def prettyMembers (level : Nat) : List (String × Json) → List Char
  | [] => newLine level ++ ['\x7d']
  | (name, v) :: rest =>
    ',' :: (newLine (level + 1) ++ quoteChars name ++
      ':' :: ' ' :: (prettyChars (level + 1) v ++ prettyMembers level rest))
termination_by structural members => members

end

/-- A value over several lines, indented by two blanks a level. -/
def pretty (v : Json) : String :=
  String.ofList (prettyChars 0 v)

end Json

end EntityQuery
