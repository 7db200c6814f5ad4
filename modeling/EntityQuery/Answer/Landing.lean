import EntityQuery.Answer.Display
import EntityQuery.Service.Basic

/-!
# Landing

What the outcome of one exchange does to the display and to the query.

## Main Definitions

* `RequestKind`: whether a request browses or exports.
* `Reaction`: display and notice after an outcome.
* `Query.land`: the reaction to an outcome, and the query after it.

## Design Notes

The shape expected of a body is that of the request, whatever the body holds.
Rows are projected onto the fields that the query has when the outcome lands.
A failure leaves the query as it was.
-/

namespace EntityQuery

/-- What a request asks for. -/
inductive RequestKind where
  | browse
  | exports
deriving DecidableEq, Repr

namespace RequestKind

/-- The kind of a request by its export flag. -/
def ofFlag (exports : Bool) : RequestKind :=
  if exports then .exports else .browse

/-- The name of a kind. -/
def name : RequestKind → String
  | .browse => "browse"
  | .exports => "export"

end RequestKind

/-- What the user sees of an outcome. -/
structure Reaction where
  display : Display
  notice : Option Notice
deriving DecidableEq, Repr

namespace Reaction

/-- What the user sees of a failure. -/
def ofFailure (e : ServiceError) : Reaction :=
  { display := .error e.message, notice := some (.alert e.message) }

/-- What the user sees of an answer to an export. -/
def ofExport : ExportAnswer → Reaction
  | .ready handle => { display := .exportFinished, notice := some (.exportReady handle) }
  | .diagnostic body => { display := .exportFinished, notice := some (.exportDiagnostic body) }

/-- What the user sees of a page, under a projection. -/
def ofPage (fields : List String) (page : ResultPage) : Reaction :=
  match Table.ofPage? fields page with
  | some table => { display := .table table, notice := none }
  | none => { display := .noResults page.place, notice := none }

end Reaction

/-- The page in an outcome; a body of another shape is an error of its own. -/
def ResultPage.ofOutcome (outcome : Outcome) : Except ServiceError ResultPage :=
  match outcome with
  | .error e => .error e
  | .ok body =>
    match ResultPage.ofJson body with
    | .error e => .error (.malformed e.message)
    | .ok page => .ok page

/-- Applies an outcome: what the user sees, and the query with a new handle if there is one. -/
def Query.land (kind : RequestKind) (outcome : Outcome) (q : Query) : Reaction × Query :=
  match kind with
  | .exports =>
    match outcome with
    | .error e => (.ofFailure e, q)
    | .ok body =>
      match ExportAnswer.ofBody body with
      | .ready handle => (.ofExport (.ready handle), q.keepHandle handle)
      | .diagnostic body => (.ofExport (.diagnostic body), q)
  | .browse =>
    match ResultPage.ofOutcome outcome with
    | .error e => (.ofFailure e, q)
    | .ok page => (.ofPage q.fields page, q)

end EntityQuery
