import EntityQuery.Criteria.Name
import EntityQuery.Scalar

/-!
# Criteria

What rows have to meet.  A predicate may ask for membership in a nested query,
which has criteria of its own, so criteria form trees.

## Main Definitions

* `Predicate`, `Subquery`, `Criterion`: a predicate, a nested query, and a
  predicate on a field.
* `Criteria`: criteria in the order of their names.
* `Predicate.depth`, `Criteria.depth`: the levels of nested queries.
* `Criteria.toJson`, `Criteria.wire`: the JSON object of some criteria, with its
  members sorted by name or in the order of the criteria.

## Design Notes

The kind in a criterion's name is the kind of its predicate, so a name never
disagrees with what it names.
-/

namespace EntityQuery

mutual

/-- A predicate on a field. -/
inductive Predicate where
  | equals (operand : Scalar)
  | like (pattern : Scalar)
  /-- Both ends belong to the range. -/
  | between (lower upper : Scalar)
  | inSubquery (query : Subquery)

/-- The values of a field over the rows of an entity that meet some criteria. -/
structure Subquery where
  entity : String
  field : String
  filters : List Criterion

/-- A predicate on a named field. -/
structure Criterion where
  field : String
  predicate : Predicate

end

deriving instance BEq for Predicate, Subquery, Criterion

instance : Inhabited Predicate := ⟨.equals (.bool false)⟩

/-- Criteria in the order of their names. -/
abbrev Criteria := List Criterion

namespace Predicate

/-- The kind of a predicate. -/
def kind : Predicate → PredicateKind
  | .equals _ => .equals
  | .like _ => .like
  | .between _ _ => .between
  | .inSubquery _ => .inSubquery

/-- The range between two typed bounds, each a number if it is written as one. -/
def betweenTyped (lower upper : String) : Predicate :=
  .between (.ofTyped lower) (.ofTyped upper)

end Predicate

namespace Criterion

/-- What a criterion goes by. -/
def name (c : Criterion) : CriterionName :=
  { field := c.field, kind := c.predicate.kind }

/-- The name of a criterion on the wire. -/
def wireName (c : Criterion) : String :=
  c.name.wireName

end Criterion

/-! ## Nesting depth -/

mutual

/-- The levels of subqueries below a predicate. -/
def Predicate.depth : Predicate → Nat
  | .equals _ => 0
  | .like _ => 0
  | .between _ _ => 0
  | .inSubquery query => query.depth
termination_by structural p => p

/-- The levels of subqueries, this one included. -/
def Subquery.depth : Subquery → Nat
  | ⟨_, _, filters⟩ => 1 + Criteria.depth filters
termination_by structural q => q

/-- The deepest level of subqueries in some criteria. -/
def Criteria.depth : List Criterion → Nat
  | [] => 0
  | ⟨_, predicate⟩ :: rest => max predicate.depth (Criteria.depth rest)
termination_by structural cs => cs

end

/-! ## JSON forms -/

mutual

/-- The JSON value of a predicate, every object sorted by name. -/
def Predicate.toJson : Predicate → Json
  | .equals s => s.toJson
  | .like s => s.toJson
  | .between lower upper => .array [lower.toJson, upper.toJson]
  | .inSubquery query => query.toJson
termination_by structural p => p

/-- The JSON object of a subquery, every object sorted by name. -/
def Subquery.toJson : Subquery → Json
  | ⟨entity, field, filters⟩ =>
    .object [("entity", .string entity), ("field", .string field),
      ("filters", .object (Members.ofList (Criteria.sortedMembers filters)))]
termination_by structural q => q

/-- The members of some criteria with their sorted values, in the order of the criteria. -/
def Criteria.sortedMembers : List Criterion → List (String × Json)
  | [] => []
  | ⟨field, predicate⟩ :: rest =>
    (CriterionName.wireName ⟨field, predicate.kind⟩, predicate.toJson) ::
      Criteria.sortedMembers rest
termination_by structural cs => cs

end

/-- The JSON object of some criteria, every object sorted by name. -/
def Criteria.toJson (criteria : Criteria) : Json :=
  .object (Members.ofList (Criteria.sortedMembers criteria))

mutual

/-- The JSON value of a predicate, criteria in their own order. -/
def Predicate.wire : Predicate → Json
  | .equals s => s.toJson
  | .like s => s.toJson
  | .between lower upper => .array [lower.toJson, upper.toJson]
  | .inSubquery query => query.wire
termination_by structural p => p

/-- The JSON object of a subquery, criteria in their own order. -/
def Subquery.wire : Subquery → Json
  | ⟨entity, field, filters⟩ =>
    .object [("entity", .string entity), ("field", .string field),
      ("filters", .object (Criteria.wireMembers filters))]
termination_by structural q => q

/-- The members of some criteria, in the order of the criteria at every level. -/
def Criteria.wireMembers : List Criterion → List (String × Json)
  | [] => []
  | ⟨field, predicate⟩ :: rest =>
    (CriterionName.wireName ⟨field, predicate.kind⟩, predicate.wire) ::
      Criteria.wireMembers rest
termination_by structural cs => cs

end

/-- The JSON object of some criteria, in the order of the criteria at every level. -/
def Criteria.wire (criteria : Criteria) : Json :=
  .object (Criteria.wireMembers criteria)

/-- One line a criterion, the wire name and the JSON value, or a line that there are none. -/
def Criteria.lines (criteria : Criteria) : List String :=
  if criteria.isEmpty then ["No filters"]
  else criteria.map fun c => c.wireName ++ " : " ++ c.predicate.toJson.compact

end EntityQuery
