import EntityQuery.Json.Cursor

/-!
# Reading records

A record description that can be read from a value in memory and from text
alike.  A description is written once against the operations of `Source`; the
two instances supply the operations for the two kinds of input.

## Main Definitions

* `Source`: the operations that record descriptions are made of.
* `Field`: a named part of a record, with the reader that stores it.
* `FromValue`: reading from a value; errors have no place.
* `Reader`: reading from text; errors have a place, and the first fault in the
  text is the one reported.
* `decode`, `decodeText`: apply a description.

## Design Notes

A record is an object of its fields or an array of them in order.  Unknown
members are passed over, a repeated member is refused, and a field that is
absent keeps what the blank record holds unless it is required.
-/

namespace EntityQuery.Json

open Decimal

/-- A named part of a record under construction. -/
structure Field (m : Type → Type) (β : Type) where
  name : String
  /-- A required field has no value when it is absent. -/
  required : Bool
  /-- Reads the value of the field and stores it in the record. -/
  read : β → m β

/-- What record descriptions are made of. -/
class Source (m : Type → Type) extends Monad m where
  /-- Any value, in normal form. -/
  anything : m Json
  /-- A string. -/
  text : m String
  /-- A truth value. -/
  flag : m Bool
  /-- A natural number below a bound; the string names the expected type. -/
  natural : (bound : Nat) → (expected : String) → m Nat
  /-- A value, or null. -/
  nullable {α : Type} : m α → m (Option α)
  /-- An array. -/
  list {α : Type} : m α → m (List α)
  /-- An object of values of one kind, sorted by name. -/
  dictionary {α : Type} : m α → m (List (String × α))
  /-- One of several named constants. -/
  variant {α : Type} : List (String × α) → m α
  /-- A record: its name, its fields, and the blank record. -/
  record {β : Type} : String → List (Field m β) → β → m β
  /-- Refuses what has been read. -/
  refuse {α : Type} : Cause → m α

/-- The expectation of a record as a whole. -/
def recordName (name : String) : String :=
  "struct " ++ name

/-- The expectation of a record written as an array. -/
def recordLength (name : String) (count : Nat) : String :=
  "struct " ++ name ++ " with " ++ toString count ++ " elements"

/-- The first required field that was not seen. -/
def missingField? {m : Type → Type} {β : Type} (fields : List (Field m β)) (seen : List String) :
    Option String :=
  (fields.find? fun f => f.required && !seen.contains f.name).map (·.name)

/-! ## From a value -/

/-- Reading from a value in memory. -/
abbrev FromValue := ReaderT Json (Except Error)

namespace FromValue

/-- Fails; there is no place to report. -/
def fail {α : Type} (cause : Cause) : Except Error α :=
  .error ⟨cause, none⟩

/-- The value is not of the expected type. -/
def mismatch {α : Type} (v : Json) (expected : String) : Except Error α :=
  fail (.invalidType (.ofJson v) expected)

/-- Applies one reader to the items of an array in turn. -/
def readItems {α : Type} (item : FromValue α) : List Json → Except Error (List α)
  | [] => .ok []
  | v :: rest => do
    let a ← item v
    let as ← readItems item rest
    pure (a :: as)

/-- Applies one reader to the values of an object in turn. -/
def readValues {α : Type} (value : FromValue α) :
    List (String × Json) → Except Error (List (String × α))
  | [] => .ok []
  | (name, v) :: rest => do
    let a ← value v
    let as ← readValues value rest
    pure ((name, a) :: as)

/-- Stores the members of an object in the fields of their names. -/
def readMembers {β : Type} (fields : List (Field FromValue β)) :
    List (String × Json) → List String → β → Except Error (β × List String)
  | [], seen, b => .ok (b, seen)
  | (name, v) :: rest, seen, b =>
    match fields.find? (·.name == name) with
    | none => readMembers fields rest seen b
    | some f =>
      if seen.contains name then fail (.duplicateField name)
      else do
        let b ← f.read b v
        readMembers fields rest (name :: seen) b

/-- Stores the items of an array in the fields in order. -/
def readFields {β : Type} (tooFew : Nat → Cause) (tooMany : Cause) :
    List (Field FromValue β) → List Json → Nat → β → Except Error β
  | [], [], _, b => .ok b
  | [], _ :: _, _, _ => fail tooMany
  | f :: fields, [], i, b =>
    if f.required then fail (tooFew i) else readFields tooFew tooMany fields [] (i + 1) b
  | f :: fields, v :: rest, i, b => do
    let b ← f.read b v
    readFields tooFew tooMany fields rest (i + 1) b

/-- Reads a record from an object or an array. -/
def readRecord {β : Type} (name : String) (fields : List (Field FromValue β)) (blank : β) :
    FromValue β
  | .object members => do
    let (b, seen) ← readMembers fields members [] blank
    match missingField? fields seen with
    | some missing => fail (.missingField missing)
    | none => pure b
  | .array items =>
    readFields (fun i => .invalidLength i (recordLength name fields.length))
      (.invalidLength items.length "fewer elements in array") fields items 0 blank
  | v => mismatch v (recordName name)

/-- Reads one of several constants: its name, or an object from its name to null. -/
def readVariant {α : Type} (variants : List (String × α)) : FromValue α
  | .string s => pick s
  | .object [] => fail (.invalidValue .map "map with a single key")
  | .object [(name, v)] => do
    let a ← pick name
    match v with
    | .null => pure a
    | v => mismatch v "unit"
  | .object _ => fail (.invalidValue .map "map with a single key")
  | v => mismatch v "string or map"
where
  pick (name : String) : Except Error α :=
    match variants.lookup name with
    | some a => .ok a
    | none => fail (.unknownVariant name (variants.map (·.1)))

instance : Source FromValue where
  anything := fun v => .ok v.normalize
  text
    | .string s => .ok s
    | v => mismatch v "a string"
  flag
    | .bool b => .ok b
    | v => mismatch v "a boolean"
  natural bound expected
    | .number (.integer n) =>
      if 0 ≤ n ∧ n < bound then .ok n.toNat
      else fail (.invalidValue (.number (.integer n)) expected)
    | v => mismatch v expected
  nullable r
    | .null => .ok none
    | v => (r v).map some
  list item
    | .array items => readItems item items
    | v => mismatch v "a sequence"
  dictionary value
    | .object members => (readValues value members).map Members.ofList
    | v => mismatch v "a map"
  variant := readVariant
  record := readRecord
  refuse cause := fun _ => fail cause

end FromValue

/-- Reads a value by a description. -/
def decode {α : Type} (description : FromValue α) (v : Json) : Except Error α :=
  description v

/-! ## From text -/

namespace Reader

/-- The value that stands at the cursor is not of the expected type. -/
def mismatch {α : Type} (expected : String) : Reader α := do
  let refuse (found : Found) : Reader α := failUnplaced (.invalidType found expected)
  match ← peek? with
  | none => failNext .endInValue
  | some c =>
    if c = 'n' then
      skip
      keyword ['u', 'l', 'l']
      refuse .null
    else if c = 't' then
      skip
      keyword ['r', 'u', 'e']
      refuse (.bool true)
    else if c = 'f' then
      skip
      keyword ['a', 'l', 's', 'e']
      refuse (.bool false)
    else if c = '-' then
      skip
      refuse (.number (← number true))
    else if isDigit c then refuse (.number (← number false))
    else if c = '"' then
      skip
      refuse (.string (← stringBody))
    else if c = '[' then refuse .sequence
    else if c = '\x7b' then refuse .map
    else failNext .expectedValue

/-- Passes blanks and answers the character that follows them. -/
def nextChar : Reader Char := do
  match ← skipBlanks with
  | none => failNext .endInValue
  | some c => pure c

/-- A string, described as `expected` when something else stands there. -/
def stringAs (expected : String) : Reader String := do
  if (← nextChar) = '"' then
    skip
    stringBody
  else mismatch expected

/-- One of the given names, as a string at whose opening quote the cursor stands. -/
def variantName {α : Type} (variants : List (String × α)) : Reader α := located do
  skip
  let name ← stringBody
  match variants.lookup name with
  | some a => pure a
  | none => failUnplaced (.unknownVariant name (variants.map (·.1)))

/-- Null, where nothing else carries information. -/
def unit : Reader Unit := located do
  if (← nextChar) = 'n' then
    skip
    keyword ['u', 'l', 'l']
  else mismatch "unit"

/-- Reads one of several constants: its name, or an object from its name to null. -/
def readVariant {α : Type} (variants : List (String × α)) : Reader α := do
  let c ← nextChar
  if c = '"' then variantName variants
  else if c = '\x7b' then
    enclosed
      (do
        match ← skipBlanks with
        | some '"' =>
          let a ← variantName variants
          colon
          unit
          pure a
        | some _ => failNext .nameNotString
        | none => failNext .endInObject)
      (do
        match ← skipBlanks with
        | some '\x7d' => skip
        | some _ => failHere .expectedValue
        | none => failHere .endInObject)
  else failNext .expectedValue

/-- A number, refused unless it is an integer from zero up to a bound. -/
def readNatural (bound : Nat) (expected : String) : Reader Nat := located do
  let c ← nextChar
  if c = '-' then
    skip
    check (← number true)
  else if isDigit c then check (← number false)
  else mismatch expected
where
  check (n : Number) : Reader Nat :=
    match n with
    | .integer i =>
      if 0 ≤ i ∧ i < bound then pure i.toNat
      else failUnplaced (.invalidValue (.number n) expected)
    | .float _ => failUnplaced (.invalidType (.number n) expected)

/-- Stores one member in the field of its name; a member of no field is passed over. -/
def storeMember {β : Type} (fields : List (Field Reader β)) (state : β × List String)
    (name : String) : Reader (β × List String) := do
  let (b, seen) := state
  match fields.find? (·.name == name) with
  | none =>
    colon
    ignoreValue
    pure (b, seen)
  | some f =>
    if seen.contains name then failUnplaced (.duplicateField name)
    else
      colon
      let b ← f.read b
      pure (b, name :: seen)

/-- Stores the items of an array in the fields in order. -/
def storeItems {β : Type} (tooFew : Nat → Cause) :
    List (Field Reader β) → Nat → β → Reader β
  | [], _, b => pure b
  | f :: fields, i, b => do
    if ← hasItem (i == 0) then
      let b ← f.read b
      storeItems tooFew fields (i + 1) b
    else if f.required then failUnplaced (tooFew i)
    else absent fields i b
where
  /-- The array has ended before the fields have. -/
  absent : List (Field Reader β) → Nat → β → Reader β
    | [], _, b => pure b
    | f :: fields, i, b =>
      if f.required then failUnplaced (tooFew (i + 1)) else absent fields (i + 1) b

/-- Reads a record from an object or an array. -/
def readRecord {β : Type} (name : String) (fields : List (Field Reader β)) (blank : β) :
    Reader β := located do
  let c ← nextChar
  if c = '\x7b' then
    let fuel := (← get).rest.length + 1
    enclosed
      (do
        let (b, seen) ← foldMembers (storeMember fields) fuel true (blank, [])
        match missingField? fields seen with
        | some missing => failUnplaced (.missingField missing)
        | none => pure b)
      objectEnd
  else if c = '[' then
    enclosed
      (storeItems (fun i => .invalidLength i (recordLength name fields.length)) fields 0 blank)
      listEnd
  else mismatch (recordName name)

instance : Source Reader where
  anything := do return (← readValue).normalize
  text := located (stringAs "a string")
  flag := located do
    let c ← nextChar
    if c = 't' then
      skip
      keyword ['r', 'u', 'e']
      pure true
    else if c = 'f' then
      skip
      keyword ['a', 'l', 's', 'e']
      pure false
    else mismatch "a boolean"
  natural := readNatural
  nullable r := do
    match ← skipBlanks with
    | some 'n' =>
      skip
      keyword ['u', 'l', 'l']
      pure none
    | _ => some <$> r
  list item := located do
    if (← nextChar) = '[' then items item else mismatch "a sequence"
  dictionary value := located do
    if (← nextChar) = '\x7b' then Members.ofList <$> members value else mismatch "a map"
  variant := readVariant
  record := readRecord
  refuse := failUnplaced

end Reader

/-- Reads a text by a description. -/
def decodeText {α : Type} (description : Reader α) (s : String) : Except Error α :=
  description.run s

end EntityQuery.Json
