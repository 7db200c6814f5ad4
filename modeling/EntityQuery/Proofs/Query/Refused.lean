import EntityQuery.Proofs.Query.Preset
import EntityQuery.Query.Edit

/-!
# Refused edits

An edit that is refused leaves the query as it was.  Only a preset replaces
anything before it can be refused, and the bound on nesting would have to be zero.

## Main Statements

* `Preset.apply_fst`: no preset is refused under a bound other than zero.
* `Edit.apply_of_refused`: under such a bound, a refused edit changes nothing.
-/

namespace EntityQuery

variable {q : Query}

namespace Preset

/-- Where there may be subqueries, no preset is refused. -/
theorem apply_fst (allows : q.filters.maxDepth ≠ 0) (p : Preset) : (p.apply q).1 = .ok () := by
  cases p with
  | nameLike | salaryRange | distinctDepartments => rfl
  | salesSubquery => rw [apply_salesSubquery, if_neg allows]

end Preset

namespace Edit

variable {catalog : Catalog} {edit : Edit} {e : QueryError}

theorem ofFilters_of_refused {edited : Except CriteriaError (Answer × BoundedCriteria)}
    (refused : (ofFilters q edited).1 = .error e) : (ofFilters q edited).2 = q := by
  cases edited with
  | error e => rfl
  | ok edited => cases refused

theorem ofSorts_of_refused {edited : Except SortError (Answer × SortOrder)}
    (refused : (ofSorts q edited).1 = .error e) : (ofSorts q edited).2 = q := by
  cases edited with
  | error e => rfl
  | ok edited => cases refused

/-- A refused edit changes nothing, if there may be subqueries at all. -/
theorem apply_of_refused (allows : q.filters.maxDepth ≠ 0)
    (refused : (edit.apply catalog q).1 = .error e) : (edit.apply catalog q).2 = q := by
  cases edit with
  | criterion | form | eraseCriterion | eraseWireName | clearCriteria =>
    exact ofFilters_of_refused refused
  | addSortOn | sortField | sortDirection | eraseSort | clearSorts =>
    exact ofSorts_of_refused refused
  | size n =>
    rw [apply] at refused ⊢
    split at refused
    · cases refused
    · rfl
  | preset p =>
    have accepted := p.apply_fst allows
    change (p.apply q).1.map _ = .error e at refused
    rw [accepted] at refused
    cases refused
  | _ => cases refused

end Edit

end EntityQuery
