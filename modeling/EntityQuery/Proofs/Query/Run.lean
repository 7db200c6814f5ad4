import Mathlib.Data.List.Forall2
import EntityQuery.Proofs.Criteria.Form
import EntityQuery.Proofs.Query.Projection

/-!
# Runs of edits

A run ends with the first edit that is refused.  One that is not refused is told
part by part: what its first part leaves is what the second starts from.

## Main Statements

* `Edit.run_append_eq_ok_iff`: a run that is not refused, in two parts.
* `Edit.exists_of_run_forms`: forms set the criteria that they stand for.
* `Edit.run_sorts`: sorts that are added line up in their directions.
* `Edit.eq_of_run_option`, `Edit.eq_of_run_project`: edits that are made only if
  there is something to set.
-/

namespace EntityQuery

namespace SortOrder

theorem length_append (key : SortKey) (o : SortOrder) : (o.append key).length = o.length + 1 := by
  rw [length, append, List.length_append, List.length_singleton]
  rfl

/-- A sort that was just added is turned at its place behind the others. -/
theorem modify_appendField (key : SortKey) (o : SortOrder) :
    (o.appendField key.field).modify o.length (fun k => { k with direction := key.direction }) =
      .ok (o.append key) := by
  have behind : o.length < (o.appendField key.field).length := by
    rw [appendField, length_append]
    exact Nat.lt_succ_self _
  have turned (keys : List SortKey) : (keys ++ [SortKey.mk key.field .asc]).modify keys.length
      (fun k => { k with direction := key.direction }) = keys ++ [key] := by
    induction keys with
    | nil => rfl
    | cons first rest ih => exact congrArg (first :: ·) ih
  rw [modify, if_pos behind]
  exact congrArg (fun keys => Except.ok (SortOrder.mk keys)) (turned o.keys)

end SortOrder

namespace Edit

variable {catalog : Catalog} {q after : Query}

theorem run_cons_eq_ok_iff {edit : Edit} {edits : List Edit} :
    run catalog (edit :: edits) q = (.ok (), after) ↔
      ∃ answer mid, edit.apply catalog q = (.ok answer, mid) ∧
        run catalog edits mid = (.ok (), after) := by
  rw [run]
  rcases edit.apply catalog q with ⟨e | answer, mid⟩
  · simp
  · simp

/-- A run is not refused if neither part of it is. -/
theorem run_append_eq_ok_iff {edits more : List Edit} :
    run catalog (edits ++ more) q = (.ok (), after) ↔
      ∃ mid, run catalog edits q = (.ok (), mid) ∧ run catalog more mid = (.ok (), after) := by
  induction edits generalizing q with
  | nil => simp [run]
  | cons edit edits ih =>
    rw [List.cons_append, run_cons_eq_ok_iff]
    simp only [run_cons_eq_ok_iff, ih]
    constructor
    · rintro ⟨answer, first, applied, mid, before, behind⟩
      exact ⟨mid, ⟨answer, first, applied, before⟩, behind⟩
    · rintro ⟨mid, ⟨answer, first, applied, before⟩, behind⟩
      exact ⟨answer, first, applied, mid, before, behind⟩

/-- Forms that are neither cancelled nor refused set the criteria that they stand for, in order. -/
theorem exists_of_run_forms {forms : List CriterionForm}
    (whole : ∀ form ∈ forms, ¬form.IsCancelled)
    (accepted : run catalog (forms.map form) q = (.ok (), after)) :
    ∃ more : List Criterion,
      List.Forall₂ (fun form c => form.Means c ∧ c.predicate.depth ≤ q.filters.maxDepth)
        forms more ∧
      after = { q with
        filters := { q.filters with criteria := q.filters.criteria.setAll more } } := by
  induction forms generalizing q with
  | nil =>
    cases accepted
    exact ⟨[], .nil, rfl⟩
  | cons form forms ih =>
    obtain ⟨answer, mid, applied, rest⟩ := run_cons_eq_ok_iff.mp accepted
    have three := form.cancelled_or_refused_or_means q.filters.maxDepth
    rcases three with cancelled | refused | ⟨⟨field, predicate⟩, means, shallow⟩
    · exact absurd cancelled (whole form List.mem_cons_self)
    · obtain ⟨e, fault⟩ := apply_form_of_isRefused refused catalog
      rw [fault] at applied
      cases applied
    · rw [apply_form_of_means means shallow] at applied
      cases applied
      obtain ⟨more, reads, rfl⟩ := ih (fun form mem => whole form (List.mem_cons_of_mem _ mem)) rest
      exact ⟨_ :: more, .cons ⟨means, shallow⟩ reads, rfl⟩

/-- Sorts that are added and turned one after the other line up behind those that are there. -/
theorem run_sorts (catalog : Catalog) (keys : List SortKey) (q : Query) :
    run catalog ((keys.zipIdx q.sorts.length).flatMap fun (key, index) =>
        [.addSortOn key.field, .sortDirection index key.direction]) q =
      (.ok (), { q with sorts := ⟨q.sorts.keys ++ keys⟩ }) := by
  -- Each sort is turned at the position that counts those before it, also the new ones.
  induction keys generalizing q with
  | nil =>
    rw [List.append_nil]
    rfl
  | cons key keys ih =>
    have turned : (sortDirection q.sorts.length key.direction).apply catalog
        { q with sorts := q.sorts.appendField key.field } =
          (.ok .done, { q with sorts := q.sorts.append key }) := by
      rw [apply, SortOrder.modify_appendField]
      rfl
    have rest := ih { q with sorts := q.sorts.append key }
    rw [SortOrder.length_append, SortOrder.append, List.append_assoc] at rest
    refine Eq.trans ?_ rest
    rw [List.zipIdx_cons, List.flatMap_cons]
    change run catalog (sortDirection q.sorts.length key.direction :: _)
      { q with sorts := q.sorts.appendField key.field } = _
    rw [run, turned]
    rfl

/-- An edit that is made if there is something to set sets that, or what there is already. -/
theorem eq_of_run_option {α : Type} {edit : α → Edit} (set : α → Query) {current : α}
    (same : set current = q)
    (sets : ∀ x answer mid, (edit x).apply catalog q = (.ok answer, mid) → mid = set x)
    {given : Option α} (accepted : run catalog (given.toList.map edit) q = (.ok (), after)) :
    after = set (given.getD current) := by
  cases given with
  | none =>
    cases accepted
    exact same.symm
  | some x =>
    obtain ⟨answer, mid, applied, rest⟩ := run_cons_eq_ok_iff.mp accepted
    cases rest
    exact sets x answer after applied

/-- A projection that is given replaces the one that there is. -/
theorem eq_of_run_project {fields : List String}
    (accepted : run catalog (if fields.isEmpty then [] else [.project fields]) q =
      (.ok (), after)) :
    after = { q with fields := if fields = [] then q.fields else fields.eraseDups } := by
  by_cases none : fields = []
  · rw [if_pos (List.isEmpty_iff.mpr none)] at accepted
    cases accepted
    rw [if_pos none]
  · rw [if_neg (mt List.isEmpty_iff.mp none)] at accepted
    obtain ⟨answer, mid, applied, rest⟩ := run_cons_eq_ok_iff.mp accepted
    cases applied
    cases rest
    rw [if_neg none, ← Query.fields_project fields q]
    rfl

end Edit

end EntityQuery
