import EntityQuery.Text.Hex
import EntityQuery.Text.Split
import EntityQuery.Text.Utf8

/-!
# Form encoding

Names and values as `application/x-www-form-urlencoded` text: the form of the
query part of a URL.

## Main Definitions

* `Url.encodeComponent`, `Url.decodeComponent`: one name or value.
* `Url.encodePair`, `Url.decodePairs`: a pair, and all pairs of a query.
* `Url.percentByte`, `Url.percentDecode`: bytes behind percent signs.

## Design Notes

Encoding works on the UTF-8 bytes of a text.  A blank becomes a plus sign, the
safe characters stand for themselves, and every other byte becomes a percent
sign with two hexadecimal digits; so neither `&` nor `=` occurs in what is
encoded.
-/

namespace EntityQuery.Url

/-- A percent sign with the two digits of a byte. -/
def percentByte (b : UInt8) : List Char :=
  ['%', Text.upperHexDigit (b.toNat / 16), Text.upperHexDigit (b.toNat % 16)]

/-- The bytes of a text, two digits after a percent sign being one byte. -/
def percentDecode : List Char → List UInt8
  | '%' :: a :: b :: rest =>
    match Text.hexValue? a, Text.hexValue? b with
    | some x, some y => UInt8.ofNat (x * 16 + y) :: percentDecode rest
    | _, _ => String.utf8EncodeChar '%' ++ percentDecode (a :: b :: rest)
  | c :: rest => String.utf8EncodeChar c ++ percentDecode rest
  | [] => []

/-- The bytes that stand for themselves in a form. -/
def isFormSafe (b : UInt8) : Bool :=
  let n := b.toNat
  (0x30 ≤ n && n ≤ 0x39) || (0x41 ≤ n && n ≤ 0x5A) || (0x61 ≤ n && n ≤ 0x7A) ||
    n == 0x2A || n == 0x2D || n == 0x2E || n == 0x5F

/-- What stands for a byte in a form. -/
def encodeFormByte (b : UInt8) : List Char :=
  if isFormSafe b then [Char.ofNat b.toNat]
  else if b = 0x20 then ['+']
  else percentByte b

/-- A name or value as it stands in a form. -/
def encodeComponent (s : List Char) : List Char :=
  (Text.encode s).flatMap encodeFormByte

/-- The name or value that a part of a form stands for. -/
def decodeComponent (s : List Char) : List Char :=
  Text.decodeLossy (percentDecode (s.map fun c => if c = '+' then ' ' else c))

/-- A name and a value as they stand in a form. -/
def encodePair (name value : List Char) : List Char :=
  encodeComponent name ++ '=' :: encodeComponent value

/-- The name and value of one part of a form; without an equals sign the value is empty. -/
def decodePair (part : List Char) : List Char × List Char :=
  match Text.cutFirst '=' part with
  | some (name, value) => (decodeComponent name, decodeComponent value)
  | none => (decodeComponent part, [])

/-- The pairs of a form in order; empty parts hold no pair. -/
def decodePairs (form : List Char) : List (List Char × List Char) :=
  ((Text.splitOn (· == '&') form).filter (· ≠ [])).map decodePair

end EntityQuery.Url
