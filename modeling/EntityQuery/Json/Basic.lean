import EntityQuery.Decimal.Shortest

/-!
# JSON values

JSON values as trees, and the canonical form in which the members of every
object are sorted by name.

## Main Definitions

* `Json`: a JSON value; an object is the list of its members as they stand.
* `Members.insert`, `Members.ofList`: member lists sorted by name, a later
  member replacing an earlier one of the same name.
* `Json.normalize`: every object of a value sorted.
* `Json.IsNormal`: no object of a value has members out of order.

## Design Notes

Two values are the same unordered JSON value exactly when their normal forms
are equal.  A writer may emit members in an order of its own; whatever is read
into memory is normal.  Names are ordered by code point, which is also the
order of their UTF-8 bytes.
-/

namespace EntityQuery

open Decimal

/-- A JSON number: an integer, or a finite floating point number. -/
inductive Number where
  | integer (n : Int)
  | float (x : Binary64)
deriving Repr

/-- Numbers of one kind are compared by value, so the two floating point zeros are equal. -/
instance : BEq Number where
  beq
    | .integer m, .integer n => m == n
    | .float x, .float y => x.sameNumber y
    | _, _ => false

/-- A JSON value. -/
inductive Json where
  | null
  | bool (b : Bool)
  | number (n : Number)
  | string (s : String)
  | array (items : List Json)
  | object (members : List (String × Json))
deriving Repr

instance : Inhabited Json := ⟨.null⟩

/-- The members of an object, by name. -/
abbrev Members := List (String × Json)

namespace Members

/-- Puts a value under a name, keeping the names sorted and each name once. -/
def insert {α : Type} (name : String) (value : α) : List (String × α) → List (String × α)
  | [] => [(name, value)]
  | (n, v) :: rest =>
    if name = n then (name, value) :: rest
    else if name < n then (name, value) :: (n, v) :: rest
    else (n, v) :: insert name value rest

/-- The members sorted by name; of two with one name the later stays. -/
def ofList {α : Type} (entries : List (String × α)) : List (String × α) :=
  entries.foldl (fun sorted (name, value) => insert name value sorted) []

@[simp] theorem ofList_nil {α : Type} : ofList ([] : List (String × α)) = [] := rfl

/-- The names are strictly increasing. -/
def Sorted {α : Type} (entries : List (String × α)) : Prop :=
  entries.Pairwise fun a b => a.1 < b.1

end Members

namespace Json

/-- The member of an object with the given name. -/
def member? (name : String) : Json → Option Json
  | .object members => members.lookup name
  | _ => none

/-- The text of a string value. -/
def asString? : Json → Option String
  | .string s => some s
  | _ => none

mutual

/-- Sorts the members of every object; of members with one name the last stays. -/
def normalize : Json → Json
  | .array items => .array (normalizeItems items)
  | .object members => .object (Members.ofList (normalizeMembers members))
  | .null => .null
  | .bool b => .bool b
  | .number n => .number n
  | .string s => .string s
termination_by structural v => v

/-- The normal forms of the items of an array. -/
def normalizeItems : List Json → List Json
  | [] => []
  | v :: rest => normalize v :: normalizeItems rest
termination_by structural items => items

/-- The normal forms of the values of an object, in their places. -/
def normalizeMembers : List (String × Json) → List (String × Json)
  | [] => []
  | (name, v) :: rest => (name, normalize v) :: normalizeMembers rest
termination_by structural members => members

end

mutual

/-- The members of every object are strictly sorted by name. -/
def IsNormal : Json → Prop
  | .array items => AreNormal items
  | .object members => Members.Sorted members ∧ MembersNormal members
  | .null => True
  | .bool _ => True
  | .number _ => True
  | .string _ => True
termination_by structural v => v

/-- Every item of an array is normal. -/
def AreNormal : List Json → Prop
  | [] => True
  | v :: rest => IsNormal v ∧ AreNormal rest
termination_by structural items => items

/-- Every value of an object is normal. -/
def MembersNormal : List (String × Json) → Prop
  | [] => True
  | (_, v) :: rest => IsNormal v ∧ MembersNormal rest
termination_by structural members => members

end

end Json

end EntityQuery
