import EntityQuery.Json.Source
import EntityQuery.Text.Split

/-!
# Sort orders

The fields by which results are sorted, the most significant first.

## Main Definitions

* `Direction`, `SortKey`: ascending or descending; a field with a direction.
* `SortOrder`: sort keys in order.
* `SortOrder.append`, `SortOrder.modify`, `SortOrder.erase`: edits by position.
* `SortOrder.lines`: one numbered line a key.
* `SortError`: why an edit was refused.

## Design Notes

A position counts from zero in the order as it is at the time of the edit, so
an erased key moves every later one down by one.
-/

namespace EntityQuery

/-- Why an edit of a sort order was refused. -/
inductive SortError where
  /-- A position past the end. -/
  | indexOutOfRange (index length : Nat)
  /-- Neither ascending nor descending. -/
  | invalidDirection (raw : String)
deriving DecidableEq, Repr

namespace SortError

/-- The stable code of an error. -/
def code : SortError → String
  | .indexOutOfRange _ _ => "DYNQ_SORT_INDEX_OUT_OF_RANGE"
  | .invalidDirection _ => "DYNQ_SORT_INVALID_DIRECTION"

/-- The wording of an error. -/
def message : SortError → String
  | .indexOutOfRange index length =>
    s!"Sort index {index} out of range (list has {length} entries)"
  | .invalidDirection raw => s!"Invalid sort direction: {raw}"

end SortError

/-- The direction of a sort. -/
inductive Direction where
  | asc
  | desc
deriving DecidableEq, Repr

namespace Direction

/-- The name of a direction. -/
def name : Direction → String
  | .asc => "asc"
  | .desc => "desc"

/-- The direction of a name in any letter case. -/
def ofName (raw : String) : Except SortError Direction :=
  let lower := Text.lowerAscii raw
  if lower = "asc" then .ok .asc
  else if lower = "desc" then .ok .desc
  else .error (.invalidDirection raw)

end Direction

/-- A field with the direction in which it sorts. -/
structure SortKey where
  field : String
  direction : Direction
deriving DecidableEq, Repr

namespace SortKey

/-- A sort key as a JSON object. -/
def toJson (k : SortKey) : Json :=
  .object [("field", .string k.field), ("direction", .string k.direction.name)]

/-- The description of a sort key as a record. -/
def description {m : Type → Type} [Json.Source m] : m SortKey :=
  Json.Source.record "SortSpec"
    [ { name := "field", required := true
        read := fun k => do return { k with field := ← Json.Source.text } },
      { name := "direction", required := true
        read := fun k => do
          return { k with direction := ← Json.Source.variant [("asc", .asc), ("desc", .desc)] } } ]
    { field := "", direction := .asc }

end SortKey

/-- Sort keys, the most significant first. -/
structure SortOrder where
  keys : List SortKey
deriving DecidableEq, Repr

namespace SortOrder

/-- No sort. -/
def empty : SortOrder := ⟨[]⟩

/-- The number of keys. -/
def length (o : SortOrder) : Nat :=
  o.keys.length

/-- The order with a key at the end. -/
def append (key : SortKey) (o : SortOrder) : SortOrder :=
  ⟨o.keys ++ [key]⟩

/-- The order with an ascending sort on a field at the end. -/
def appendField (field : String) (o : SortOrder) : SortOrder :=
  o.append { field, direction := .asc }

/-- The order with the key at a position changed. -/
def modify (index : Nat) (f : SortKey → SortKey) (o : SortOrder) : Except SortError SortOrder :=
  if index < o.length then .ok ⟨o.keys.modify index f⟩
  else .error (.indexOutOfRange index o.length)

/-- The order without the key at a position, and that key. -/
def erase (index : Nat) (o : SortOrder) : Except SortError (SortKey × SortOrder) :=
  match o.keys[index]? with
  | some k => .ok (k, ⟨o.keys.eraseIdx index⟩)
  | none => .error (.indexOutOfRange index o.length)

/-- The order as a JSON array. -/
def toJson (o : SortOrder) : Json :=
  .array (o.keys.map SortKey.toJson)

/-- The description of a sort order as a record part. -/
def description {m : Type → Type} [Json.Source m] : m SortOrder := do
  return ⟨← Json.Source.list SortKey.description⟩

/-- One line a key, its position, field and direction, or a line that there are none. -/
def lines (o : SortOrder) : List String :=
  if o.keys.isEmpty then ["No multi-sort defined"]
  else o.keys.mapIdx fun i k => s!"#{i} {k.field} {Text.upperAscii k.direction.name}"

end SortOrder

end EntityQuery
