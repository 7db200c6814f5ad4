import EntityQuery.Criteria.Form
import EntityQuery.Query.Preset

/-!
# Edits

The edits of a query as data, so that a history of edits is a list.

## Main Definitions

* `Edit`: one edit with its operands.
* `Edit.apply`: its answer and the query after it.
* `Edit.applyAll`: the query after a history.
* `Edit.run`: a history that ends with the first edit that is refused.

## Design Notes

An edit that is refused answers an error.  The query is answered in any case:
a preset that is refused half way has replaced part of it.
-/

namespace EntityQuery

/-- One edit of a query. -/
inductive Edit where
  | entity (name : String)
  | project (fields : List String)
  | select (field : String)
  | deselect (field : String)
  /-- Sets a predicate, within the bound on nesting. -/
  | criterion (field : String) (predicate : Predicate)
  | form (f : CriterionForm)
  | eraseCriterion (name : CriterionName)
  | eraseWireName (raw : String)
  | clearCriteria
  /-- A sort on the entity's first field. -/
  | addSort
  | addSortOn (field : String)
  | sortField (index : Nat) (field : String)
  | sortDirection (index : Nat) (direction : Direction)
  | eraseSort (index : Nat)
  | clearSorts
  | sortString (raw : String)
  | page (n : UInt32)
  | nextPage
  | previousPage
  | size (n : UInt32)
  | distinct (on : Bool)
  | exports (on : Bool)
  | keepHandle (handle : ExportHandle)
  | preset (p : Preset)

/-- What an edit answers. -/
inductive Edit.Answer where
  | done
  /-- Whether the edit changed anything. -/
  | flag (changed : Bool)
  | position (index : Nat)
  | erasedSort (key : SortKey)
  | erasedCriterion (predicate : Option Predicate)

namespace Edit

/-- The answer of an edit, and the query after it. -/
abbrev Result := Except QueryError Answer × Query

/-- The result of an edit that is not refused. -/
def accepted (q : Query) (answer : Answer := .done) : Result :=
  (.ok answer, q)

/-- The result of an edit of the criteria. -/
def ofFilters (q : Query) : Except CriteriaError (Answer × BoundedCriteria) → Result
  | .ok (answer, filters) => (.ok answer, { q with filters })
  | .error e => (.error (.criteria e), q)

/-- The result of an edit of the sorts. -/
def ofSorts (q : Query) : Except SortError (Answer × SortOrder) → Result
  | .ok (answer, sorts) => (.ok answer, { q with sorts })
  | .error e => (.error (.sort e), q)

/-- Applies an edit. -/
def apply (catalog : Catalog) (edit : Edit) (q : Query) : Result :=
  match edit with
  | .entity name => accepted (q.changeEntity name catalog)
  | .project fields => accepted (q.project fields)
  | .select field =>
    let (changed, q) := q.select field
    accepted q (.flag changed)
  | .deselect field =>
    let (changed, q) := q.deselect field
    accepted q (.flag changed)
  | .criterion field predicate =>
    ofFilters q ((q.filters.set field predicate).map fun b => (.done, b))
  | .form f => ofFilters q ((f.submit q.filters).map fun (added, b) => (.flag added, b))
  | .eraseCriterion name =>
    let (erased, b) := q.filters.erase name
    ofFilters q (.ok (.erasedCriterion erased, b))
  | .eraseWireName raw =>
    let (erased, b) := q.filters.eraseWireName raw
    ofFilters q (.ok (.erasedCriterion erased, b))
  | .clearCriteria => ofFilters q (.ok (.done, q.filters.clear))
  | .addSort =>
    let (index, q) := q.addSort catalog
    accepted q (.position index)
  | .addSortOn field => ofSorts q (.ok (.position q.sorts.length, q.sorts.appendField field))
  | .sortField index field =>
    ofSorts q ((q.sorts.modify index ({ · with field })).map fun o => (.done, o))
  | .sortDirection index direction =>
    ofSorts q ((q.sorts.modify index ({ · with direction })).map fun o => (.done, o))
  | .eraseSort index => ofSorts q ((q.sorts.erase index).map fun (key, o) => (.erasedSort key, o))
  | .clearSorts => ofSorts q (.ok (.done, .empty))
  | .sortString raw => accepted { q with sortString := ⟨raw⟩ }
  | .page n => accepted { q with page := n }
  | .nextPage => accepted q.nextPage
  | .previousPage =>
    let (changed, q) := q.previousPage
    accepted q (.flag changed)
  | .size n =>
    match q.resize n with
    | .ok q => accepted q
    | .error e => (.error e, q)
  | .distinct on => accepted { q with distinct := on }
  | .exports on => accepted { q with exports := on }
  | .keepHandle handle => accepted (q.keepHandle handle)
  | .preset p =>
    let (result, q) := p.apply q
    (result.map fun _ => .done, q)

/-- The query after a history of edits. -/
def applyAll (catalog : Catalog) (edits : List Edit) (q : Query) : Query :=
  edits.foldl (fun q edit => (edit.apply catalog q).2) q

/-- Applies edits in order up to the first that is refused. -/
def run (catalog : Catalog) : List Edit → Query → Except QueryError Unit × Query
  | [], q => (.ok (), q)
  | edit :: edits, q =>
    match edit.apply catalog q with
    | (.ok _, q) => run catalog edits q
    | (.error e, q) => (.error e, q)

end Edit

end EntityQuery
