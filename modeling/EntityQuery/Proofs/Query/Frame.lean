import EntityQuery.Answer.Landing
import EntityQuery.Query.Edit

/-!
# What a query keeps

Few edits are about the entity, the projection or the handle of the last export.
All the others leave these three alone, and an answer that lands touches nothing
but the handle.

## Main Definitions

* `Edit.IsPlain`: the edits that are about none of the three.

## Main Statements

* `Edit.apply_of_isPlain`: what such an edit keeps.
* `Query.land_snd`: what an answer leaves.
-/

namespace EntityQuery

namespace Edit

/-- An edit that is about neither the entity nor the projection nor the handle of the last
export. -/
def IsPlain : Edit → Prop
  | .entity _ => False
  | .project _ => False
  | .select _ => False
  | .deselect _ => False
  | .keepHandle _ => False
  | .preset _ => False
  | _ => True

theorem exists_ofFilters_snd_eq (q : Query)
    (edited : Except CriteriaError (Answer × BoundedCriteria)) :
    ∃ filters, (ofFilters q edited).2 = { q with filters } := by
  cases edited <;> exact ⟨_, rfl⟩

theorem exists_ofSorts_snd_eq (q : Query) (edited : Except SortError (Answer × SortOrder)) :
    ∃ sorts, (ofSorts q edited).2 = { q with sorts } := by
  cases edited <;> exact ⟨_, rfl⟩

/-- A plain edit, refused or not, keeps the entity, the projection and the handle. -/
theorem apply_of_isPlain (catalog : Catalog) (edit : Edit) (q : Query) (plain : edit.IsPlain) :
    ∃ filters sorts sortString page size distinct exports, (edit.apply catalog q).2 =
      { q with filters, sorts, sortString, page, size, distinct, exports } := by
  cases edit with
  | entity | project | select | deselect | keepHandle | preset => cases plain
  | criterion | form | eraseCriterion | eraseWireName | clearCriteria =>
    obtain ⟨_, after⟩ := exists_ofFilters_snd_eq q _
    exact ⟨_, _, _, _, _, _, _, after⟩
  | addSortOn | sortField | sortDirection | eraseSort | clearSorts =>
    obtain ⟨_, after⟩ := exists_ofSorts_snd_eq q _
    exact ⟨_, _, _, _, _, _, _, after⟩
  | previousPage =>
    simp only [apply, Query.previousPage]
    split <;> exact ⟨_, _, _, _, _, _, _, rfl⟩
  | size n =>
    simp only [apply, Query.resize]
    by_cases zero : n = 0
    · rw [if_pos zero]
      exact ⟨_, _, _, _, _, _, _, rfl⟩
    · rw [if_neg zero]
      exact ⟨_, _, _, _, _, _, _, rfl⟩
  | _ => exact ⟨_, _, _, _, _, _, _, rfl⟩

end Edit

/-- Landing changes the handle of a query, and nothing else of it. -/
theorem Query.land_snd (kind : RequestKind) (outcome : Outcome) (q : Query) :
    (q.land kind outcome).2 =
      match kind, outcome with
      | .exports, .ok body => { q with lastExport := (ExportAnswer.handle? body).or q.lastExport }
      | _, _ => q := by
  cases kind with
  | exports =>
    cases outcome with
    | error e => rfl
    | ok body =>
      simp only [land, ExportAnswer.ofBody]
      cases ExportAnswer.handle? body <;> rfl
  | browse =>
    simp only [land]
    cases ResultPage.ofOutcome outcome <;> rfl

end EntityQuery
