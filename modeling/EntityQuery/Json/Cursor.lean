import EntityQuery.Json.Error
import EntityQuery.Decimal.Numeral
import EntityQuery.Text.Hex

/-!
# Reading JSON text

A cursor moves over the characters of a text and knows its line and column.  A
`Reader` moves the cursor; when it fails the cursor stays where it stopped.

## Main Definitions

* `Cursor`: the unread characters, the place, and the nesting still allowed.
* `Reader`: a computation that moves the cursor or fails.
* `readValue`: a whole JSON value, its members in the order of the text.
* `skipValue`: a JSON value whose content is of no interest.

## Design Notes

Columns count bytes of UTF-8, so the place after part of a character exists;
`Cursor.afterByte` is the place one byte ahead.  Numbers keep at most 64 bits
of their digits and are scaled in floating point, which is what bounds the
accuracy of a decimal with many digits.
-/

namespace EntityQuery.Json

open Decimal

/-- The unread part of a text, its place, and how many levels may still be opened. -/
structure Cursor where
  rest : List Char
  line : Nat
  column : Nat
  nesting : Nat

/-- The number of arrays and objects that may stand inside each other. -/
def maxNesting : Nat := 127

namespace Cursor

/-- The start of a text. -/
def start (s : String) : Cursor :=
  ⟨s.toList, 1, 0, maxNesting⟩

/-- The place of the cursor. -/
def position (c : Cursor) : Position :=
  ⟨c.line, c.column⟩

/-- The place one byte ahead; at the end of the text, the place of the cursor. -/
def afterByte (c : Cursor) : Position :=
  match c.rest with
  | [] => c.position
  | d :: _ => if d = '\n' then ⟨c.line + 1, 0⟩ else ⟨c.line, c.column + 1⟩

/-- The cursor one character ahead. -/
def advance (c : Cursor) : Cursor :=
  match c.rest with
  | [] => c
  | d :: rest =>
    if d = '\n' then { c with rest, line := c.line + 1, column := 0 }
    else { c with rest, column := c.column + d.utf8Size }

/-- The place `n` bytes ahead, which may lie inside a character. -/
def afterBytes : Nat → Cursor → Position
  | 0, c => c.position
  | n + 1, c =>
    match c.rest with
    | [] => c.position
    | d :: _ =>
      if d.utf8Size ≤ n + 1 then afterBytes (n + 1 - d.utf8Size) c.advance
      else ⟨c.line, c.column + (n + 1)⟩
termination_by n => n
decreasing_by
  have := d.utf8Size_pos
  omega

end Cursor

/-- A computation that moves a cursor, or fails with the cursor where it stopped. -/
abbrev Reader := EStateM Error Cursor

namespace Reader

/-- Fails at the place of the cursor. -/
def failHere {α : Type} (cause : Cause) : Reader α :=
  fun c => .error ⟨cause, some c.position⟩ c

/-- Fails at the place one byte ahead. -/
def failNext {α : Type} (cause : Cause) : Reader α :=
  fun c => .error ⟨cause, some c.afterByte⟩ c

/-- Fails without a place. -/
def failUnplaced {α : Type} (cause : Cause) : Reader α :=
  fun c => .error ⟨cause, none⟩ c

/-- A failure without a place gets the place of the cursor. -/
def located {α : Type} (r : Reader α) : Reader α := fun c =>
  match r c with
  | .ok a c => .ok a c
  | .error e c => .error { e with position := some (e.position.getD c.position) } c

/-- The next character, unread. -/
def peek? : Reader (Option Char) :=
  fun c => .ok c.rest.head? c

/-- Passes one character. -/
def skip : Reader Unit :=
  fun c => .ok () c.advance

/-- Passes the characters of a list's length. -/
def skipAll : List Char → Reader Unit
  | [] => pure ()
  | _ :: rest => do
    skip
    skipAll rest

/-- Passes the leading digits and answers them. -/
def takeDigits : Reader (List Char) := do
  let c ← get
  let ds := c.rest.takeWhile isDigit
  skipAll ds
  pure ds

/-- The characters that may stand between the parts of a JSON text. -/
def isSpace (c : Char) : Bool :=
  c == ' ' || c == '\n' || c == '\t' || c == '\r'

/-- Passes blanks and answers the next character, unread. -/
def skipBlanks : Reader (Option Char) := do
  let c ← get
  skipAll (c.rest.takeWhile isSpace)
  peek?

/-- Passes the remaining characters of a keyword. -/
def keyword : List Char → Reader Unit
  | [] => pure ()
  | expected :: rest => do
    match ← peek? with
    | none => failHere .endInValue
    | some c =>
      if c = expected then
        skip
        keyword rest
      else failNext .expectedKeyword

/-! ## Strings -/

/-- The four hexadecimal digits of an escape, as a 16-bit unit. -/
def hexUnit : Reader Nat := do
  let c ← get
  match c.rest with
  | x :: y :: z :: w :: _ =>
    match Text.hexValue? x, Text.hexValue? y, Text.hexValue? z, Text.hexValue? w with
    | some a, some b, some d, some e =>
      skipAll [x, y, z, w]
      pure (((a * 16 + b) * 16 + d) * 16 + e)
    | _, _, _, _ => fun c => .error ⟨.invalidEscape, some (c.afterBytes 4)⟩ c
  | rest =>
    if rest.foldl (fun n c => n + c.utf8Size) 0 < 4 then
      skipAll rest
      failHere .endInString
    else fun c => .error ⟨.invalidEscape, some (c.afterBytes 4)⟩ c

/-- Passes `expected` inside an escaped surrogate pair. -/
def surrogateMark (expected : Char) : Reader Unit := do
  match ← peek? with
  | none => failHere .endInString
  | some c => if c = expected then skip else failNext .endOfSurrogatePair

/-- The character of an escape `\uXXXX`, or of two that form a surrogate pair. -/
def unicodeEscape : Reader Char := do
  let high ← hexUnit
  if 0xDC00 ≤ high && high ≤ 0xDFFF then failHere .loneSurrogate
  else if high < 0xD800 || 0xDBFF < high then pure (Char.ofNat high)
  else
    surrogateMark '\\'
    surrogateMark 'u'
    let low ← hexUnit
    if low < 0xDC00 || 0xDFFF < low then failHere .loneSurrogate
    else pure (Char.ofNat ((high - 0xD800) * 0x400 + (low - 0xDC00) + 0x10000))

/-- The character that an escape after a backslash stands for. -/
def escapedChar : Reader Char := do
  match ← peek? with
  | none => failHere .endInString
  | some c =>
    match c with
    | '"' | '\\' | '/' => skip; pure c
    | 'b' => skip; pure '\x08'
    | 'f' => skip; pure '\x0c'
    | 'n' => skip; pure '\n'
    | 'r' => skip; pure '\r'
    | 't' => skip; pure '\t'
    | 'u' => skip; unicodeEscape
    | _ => failNext .invalidEscape

/-- The characters of a string up to the closing quote; `fuel` bounds their number. -/
def stringChars : (fuel : Nat) → Reader (List Char)
  | 0 => failHere .endInString
  | fuel + 1 => do
    match ← peek? with
    | none => failHere .endInString
    | some c =>
      if c = '"' then
        skip
        pure []
      else if c = '\\' then
        skip
        let d ← escapedChar
        let rest ← stringChars fuel
        pure (d :: rest)
      else if c.toNat < 0x20 then failNext .controlCharacter
      else
        skip
        let rest ← stringChars fuel
        pure (c :: rest)

/-- A string whose opening quote has been passed. -/
def stringBody : Reader String := do
  let c ← get
  let cs ← stringChars (c.rest.length + 1)
  pure (String.ofList cs)

/-- Passes an escape after a backslash without reading what it stands for. -/
def skipEscape : Reader Unit := do
  match ← peek? with
  | none => failHere .endInString
  | some c =>
    if c = 'u' then
      skip
      let _ ← hexUnit
      pure ()
    else if ['"', '\\', '/', 'b', 'f', 'n', 'r', 't'].contains c then skip
    else failNext .invalidEscape

/-- Passes a string up to its closing quote. -/
def skipStringChars : (fuel : Nat) → Reader Unit
  | 0 => failHere .endInString
  | fuel + 1 => do
    match ← peek? with
    | none => failHere .endInString
    | some c =>
      if c = '"' then skip
      else if c = '\\' then
        skip
        skipEscape
        skipStringChars fuel
      else if c.toNat < 0x20 then failHere .controlCharacter
      else
        skip
        skipStringChars fuel

/-- Passes a string whose opening quote has been passed. -/
def skipStringBody : Reader Unit := do
  let c ← get
  skipStringChars (c.rest.length + 1)

/-! ## Numbers -/

/-- Appends digits to a significand as long as it stays below `2 ^ 64`; also their number. -/
def absorbDigits (significand : Nat) : List Char → Nat × Nat
  | [] => (significand, 0)
  | d :: ds =>
    let n := 10 * significand + digitValue d
    if n < UInt64.size then
      let (s, k) := absorbDigits n ds
      (s, k + 1)
    else (significand, 0)

/-- Multiplies or divides by the floating point power of ten, in steps of at most `10 ^ 308`. -/
def scaleByTen? (x : Binary64) (exponent : Int) : Option Binary64 :=
  if exponent.natAbs ≤ 308 then
    (Binary64.ofDecimal? false 1 exponent.natAbs).bind fun power =>
      if 0 ≤ exponent then x.mul? power else x.div? power
  else if x.isZero then some x
  else if 0 ≤ exponent then none
  else
    ((Binary64.ofDecimal? false 1 308).bind x.div?).bind fun y => scaleByTen? y (exponent + 308)
termination_by exponent.natAbs
decreasing_by omega

/-- The floating point number for a significand and a power of ten. -/
def floatNumber (negative : Bool) (significand : Nat) (exponent : Int) : Reader Number :=
  match (Binary64.ofNat? significand).bind (scaleByTen? · exponent) with
  | some x => pure (.float (x.withSign negative))
  | none => failHere .numberOutOfRange

/-- How many digits are read when the value of an exponent first exceeds 31 bits, if ever. -/
def exponentOverflow? (value count : Nat) : List Char → Option Nat
  | [] => none
  | d :: ds =>
    let n := 10 * value + digitValue d
    if n < UInt32.size / 2 then exponentOverflow? n (count + 1) ds else some (count + 1)

/-- The exponent of a number, its mark passed. -/
def exponentPart (negative : Bool) (significand : Nat) (exponent : Int) : Reader Number := do
  let sign ← peek?
  if sign = some '+' || sign = some '-' then skip
  match ← peek? with
  | none => failHere .endInValue
  | some d =>
    if !isDigit d then failNext .invalidNumber
    else
      let ds := (← get).rest.takeWhile isDigit
      match exponentOverflow? 0 0 ds with
      | none =>
        skipAll ds
        let n : Int := natOfDigits ds
        floatNumber negative significand (exponent + if sign = some '-' then -n else n)
      | some count =>
        if significand ≠ 0 && sign ≠ some '-' then
          skipAll (ds.take count)
          failHere .numberOutOfRange
        else
          skipAll ds
          pure (.float (.zero negative))

/-- The digits after a point, which has been passed, and what follows them. -/
def fractionPart (negative : Bool) (significand : Nat) (exponent : Int) : Reader Number := do
  let ds ← takeDigits
  let next ← peek?
  if ds.isEmpty then
    if next.isNone then failHere .endInValue else failNext .invalidNumber
  else
    let (significand, taken) := absorbDigits significand ds
    if next = some 'e' || next = some 'E' then
      skip
      exponentPart negative significand (exponent - taken)
    else floatNumber negative significand (exponent - taken)

/-- A number without point and exponent: an integer of 64 bits, or else a float. -/
def wholeNumber (negative : Bool) (significand excess : Nat) : Reader Number :=
  if excess ≠ 0 then floatNumber negative significand excess
  else if !negative then pure (.integer significand)
  else if significand ≠ 0 && significand ≤ UInt64.size / 2 then pure (.integer (-significand))
  else floatNumber true significand 0

/-- A number whose minus sign, if any, has been passed. -/
def number (negative : Bool) : Reader Number := do
  let first ← peek?
  match first with
  | none => failHere .endInValue
  | some d =>
    if !isDigit d then failNext .invalidNumber
    else
      if d = '0' then skip
      let ds ← if d = '0' then pure [] else takeDigits
      let (significand, taken) := absorbDigits 0 ds
      let excess := ds.length - taken
      match ← peek? with
      | some '.' =>
        skip
        fractionPart negative significand excess
      | some e =>
        if e = 'e' || e = 'E' then
          skip
          exponentPart negative significand excess
        else if isDigit e then failNext .invalidNumber
        else wholeNumber negative significand excess
      | none => wholeNumber negative significand excess

/-- Passes a number without forming its value. -/
def skipNumber : Reader Unit := do
  match ← peek? with
  | none => failHere .invalidNumber
  | some d =>
    if !isDigit d then failNext .invalidNumber
    else
      if d = '0' then skip else let _ ← takeDigits
      if ((← peek?).map isDigit).getD false then failNext .invalidNumber
      if (← peek?) = some '.' then
        skip
        if (← takeDigits).isEmpty then failNext .invalidNumber
      let mark ← peek?
      if mark = some 'e' || mark = some 'E' then
        skip
        let sign ← peek?
        if sign = some '+' || sign = some '-' then skip
        match ← peek? with
        | none => failHere .invalidNumber
        | some c => if isDigit c then let _ ← takeDigits else failNext .invalidNumber

/-! ## Arrays and objects -/

/-- Whether another item follows in an array; its comma is passed. -/
def hasItem (first : Bool) : Reader Bool := do
  match ← skipBlanks with
  | none => failNext .endInList
  | some c =>
    if c = ']' then pure false
    else if first then pure true
    else if c = ',' then
      skip
      match ← skipBlanks with
      | none => failNext .endInValue
      | some ']' => failNext .trailingComma
      | some _ => pure true
    else failNext .expectedCommaOrListEnd

/-- Whether another member follows in an object; its comma and opening quote are passed. -/
def hasMember (first : Bool) : Reader Bool := do
  match ← skipBlanks with
  | none => failNext .endInObject
  | some c =>
    if c = '\x7d' then pure false
    else if first then
      if c = '"' then
        skip
        pure true
      else failNext .nameNotString
    else if c = ',' then
      skip
      match ← skipBlanks with
      | none => failNext .endInValue
      | some '"' =>
        skip
        pure true
      | some '\x7d' => failNext .trailingComma
      | some _ => failNext .nameNotString
    else failNext .expectedCommaOrObjectEnd

/-- Passes the colon after a name. -/
def colon : Reader Unit := do
  match ← skipBlanks with
  | some ':' => skip
  | some _ => failNext .expectedColon
  | none => failNext .endInObject

/-- Passes the end of an array. -/
def listEnd : Reader Unit := do
  match ← skipBlanks with
  | some ']' => skip
  | some ',' =>
    skip
    match ← skipBlanks with
    | some ']' => failNext .trailingComma
    | _ => failNext .trailingCharacters
  | some _ => failNext .trailingCharacters
  | none => failNext .endInList

/-- Passes the end of an object. -/
def objectEnd : Reader Unit := do
  match ← skipBlanks with
  | some '\x7d' => skip
  | some ',' => failNext .trailingComma
  | some _ => failNext .trailingCharacters
  | none => failNext .endInObject

/-- Reads what stands between an opening character and its end, one level deeper.

A failure inside still moves the cursor over an end that follows. -/
def enclosed {α : Type} (body : Reader α) (close : Reader Unit) : Reader α := fun c =>
  if c.nesting = 0 then failNext .nestingTooDeep c
  else
    match body { c.advance with nesting := c.nesting - 1 } with
    | .ok a inner =>
      match close { inner with nesting := c.nesting } with
      | .ok _ after => .ok a after
      | .error e after => .error e after
    | .error e inner =>
      match close { inner with nesting := c.nesting } with
      | .ok _ after => .error e after
      | .error _ after => .error e after

/-- Reads the items of an array into an accumulator; `fuel` bounds their number. -/
def foldItems {β : Type} (item : β → Reader β) : (fuel : Nat) → (first : Bool) → β → Reader β
  | 0, _, _ => failHere .endInList
  | fuel + 1, first, b => do
    if ← hasItem first then
      let b ← item b
      foldItems item fuel false b
    else pure b

/-- Reads the members of an object into an accumulator; `fuel` bounds their number. -/
def foldMembers {β : Type} (member : β → String → Reader β) :
    (fuel : Nat) → (first : Bool) → β → Reader β
  | 0, _, _ => failHere .endInObject
  | fuel + 1, first, b => do
    if ← hasMember first then
      let name ← stringBody
      let b ← member b name
      foldMembers member fuel false b
    else pure b

/-- An array with the given reader of its items. -/
def items {α : Type} (item : Reader α) : Reader (List α) := do
  let c ← get
  let reversed ← enclosed
    (foldItems (fun acc => do pure ((← item) :: acc)) (c.rest.length + 1) true []) listEnd
  pure reversed.reverse

/-- An object with the given reader of its values, in the order of the text. -/
def members {α : Type} (value : Reader α) : Reader (List (String × α)) := do
  let c ← get
  let reversed ← enclosed
    (foldMembers (fun acc name => do
      colon
      let v ← value
      pure ((name, v) :: acc)) (c.rest.length + 1) true []) objectEnd
  pure reversed.reverse

/-! ## Values -/

/-- A value, with the given reader for what stands inside arrays and objects. -/
def valueWith (inner : Reader Json) : Reader Json := do
  match ← skipBlanks with
  | none => failNext .endInValue
  | some c =>
    if c = 'n' then
      skip
      keyword ['u', 'l', 'l']
      pure .null
    else if c = 't' then
      skip
      keyword ['r', 'u', 'e']
      pure (.bool true)
    else if c = 'f' then
      skip
      keyword ['a', 'l', 's', 'e']
      pure (.bool false)
    else if c = '-' then
      skip
      return .number (← number true)
    else if isDigit c then return .number (← number false)
    else if c = '"' then
      skip
      return .string (← stringBody)
    else if c = '[' then return .array (← items inner)
    else if c = '\x7b' then return .object (← members inner)
    else failNext .expectedValue

/-- A value with at most `nesting` levels, its members in the order of the text. -/
def valueWithin : (nesting : Nat) → Reader Json
  | 0 => valueWith (failNext .nestingTooDeep)
  | nesting + 1 => valueWith (valueWithin nesting)

/-- A value, its members in the order of the text. -/
def readValue : Reader Json :=
  fun c => valueWithin c.nesting c

mutual

/-- Passes a value of any depth; `fuel` bounds the steps. -/
def skipValue : (fuel : Nat) → Reader Unit
  | 0 => failHere .endInValue
  | fuel + 1 => do
    match ← skipBlanks with
    | none => failNext .endInValue
    | some c =>
      if c = 'n' then
        skip
        keyword ['u', 'l', 'l']
      else if c = 't' then
        skip
        keyword ['r', 'u', 'e']
      else if c = 'f' then
        skip
        keyword ['a', 'l', 's', 'e']
      else if c = '-' then
        skip
        skipNumber
      else if isDigit c then skipNumber
      else if c = '"' then
        skip
        skipStringBody
      else if c = '[' then
        skip
        skipItems fuel true
      else if c = '\x7b' then
        skip
        skipMembers fuel true
      else failNext .expectedValue

/-- Passes the items of an array and its end. -/
def skipItems : (fuel : Nat) → (first : Bool) → Reader Unit
  | 0, _ => failHere .endInList
  | fuel + 1, first => do
    match ← skipBlanks with
    | none => failNext .endInList
    | some c =>
      if c = ']' then skip
      else if first then
        skipValue fuel
        skipItems fuel false
      else if c = ',' then
        skip
        skipValue fuel
        skipItems fuel false
      else failNext .expectedCommaOrListEnd

/-- Passes the members of an object and its end. -/
def skipMembers : (fuel : Nat) → (first : Bool) → Reader Unit
  | 0, _ => failHere .endInObject
  | fuel + 1, first => do
    match ← skipBlanks with
    | none => failNext .endInObject
    | some c =>
      if c = '\x7d' then skip
      else if !first && c ≠ ',' then failNext .expectedCommaOrObjectEnd
      else
        if !first then skip
        match ← skipBlanks with
        | some '"' =>
          skip
          skipStringBody
          colon
          skipValue fuel
          skipMembers fuel false
        | some _ => failNext .nameNotString
        | none => failNext .endInObject

end

/-- Passes a value whose content is of no interest. -/
def ignoreValue : Reader Unit := do
  let c ← get
  skipValue (2 * c.rest.length + 2)

/-- Blanks up to the end of the text. -/
def finish : Reader Unit := do
  match ← skipBlanks with
  | none => pure ()
  | some _ => failNext .trailingCharacters

/-- Applies a reader to a whole text. -/
def run {α : Type} (r : Reader α) (s : String) : Except Error α :=
  let whole : Reader α := do
    let a ← r
    finish
    pure a
  match whole (Cursor.start s) with
  | .ok a _ => .ok a
  | .error e _ => .error e

end Reader

/-- Reads a text as one value, its members in the order of the text. -/
def read (s : String) : Except Error Json :=
  Reader.readValue.run s

/-- Reads a text as one value in normal form. -/
def parse (s : String) : Except Error Json :=
  (read s).map normalize

end EntityQuery.Json
