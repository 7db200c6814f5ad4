import EntityQuery.CommandError
import EntityQuery.CommandLine.Value
import EntityQuery.Query.Edit

/-!
# Query flags

The part of a command line that describes a query, and what it does to a new
session.

## Main Definitions

* `QueryFlags`: the flags.
* `QueryFlags.edits`: the flags as edits, in the order in which they apply.
* `QueryFlags.apply`: the session with the flags applied.

## Design Notes

The entity comes first, since it resets projection and sorts.  The other flags
apply in a fixed order, whatever their order on the command line, and the first
that is refused ends it.
-/

namespace EntityQuery.CommandLine

/-- What the flags say about a query. -/
structure QueryFlags where
  entity : Option String := none
  fields : List String := []
  equals : List Assignment := []
  like : List Assignment := []
  between : List RangeAssignment := []
  subquery : List Assignment := []
  sort : List SortKey := []
  sortString : Option String := none
  page : Option UInt32 := none
  size : Option UInt32 := none
  distinct : Bool := false
deriving DecidableEq, Repr

namespace QueryFlags

/-- The criteria, as forms. -/
def forms (q : QueryFlags) : List CriterionForm :=
  (q.equals.map fun a => CriterionForm.equals (some a.field) (some a.value)) ++
    (q.like.map fun a => CriterionForm.like (some a.field) (some a.value)) ++
    (q.between.map fun r => CriterionForm.between (some r.field) (some r.lower) (some r.upper)) ++
    (q.subquery.map fun a => CriterionForm.subquery (some a.field) (some a.value))

/-- The sorts, behind those that are there. -/
def sortEdits (present : Nat) (q : QueryFlags) : List Edit :=
  (q.sort.zipIdx present).flatMap fun (key, index) =>
    [.addSortOn key.field, .sortDirection index key.direction]

/-- The flags other than the entity, in the order in which they apply. -/
def edits (present : Nat) (q : QueryFlags) : List Edit :=
  (if q.fields.isEmpty then [] else [Edit.project q.fields]) ++
    q.forms.map Edit.form ++
    q.sortEdits present ++
    q.sortString.toList.map Edit.sortString ++
    q.page.toList.map Edit.page ++
    q.size.toList.map Edit.size ++
    (if q.distinct then [Edit.distinct true] else [])

/-- The session on the entity of the flags. -/
def chooseEntity (q : QueryFlags) (s : Session) : Session.Step Unit :=
  match q.entity with
  | some entity => s.changeEntity entity
  | none => { answer := (), session := s }

/-- Applies the flags to a session. -/
def apply (q : QueryFlags) (s : Session) : Session.Step (Except CommandError Unit) :=
  let step := q.chooseEntity s
  let s := step.session
  let (result, query) := Edit.run s.catalog (q.edits s.query.sorts.length) s.query
  { answer := result.mapError .query, session := { s with query }, events := step.events }

end QueryFlags

end EntityQuery.CommandLine
