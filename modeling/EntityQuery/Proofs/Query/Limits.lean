import EntityQuery.Proofs.Criteria.Level
import EntityQuery.Proofs.Criteria.Order
import EntityQuery.Proofs.Except
import EntityQuery.Proofs.Query.Preset
import EntityQuery.Query.Edit

/-!
# Limits of a query

A query has a page size other than zero, and subqueries nested no deeper than
its bound.  No edit leaves these limits, and none moves the bound.

## Main Definitions

* `BoundedCriteria.KeepsTo`: criteria with a given bound, which they keep to.
* `Query.Within`: a query whose page size and criteria are within the limits.

## Main Statements

* `BoundedCriteria.KeepsTo.put`, `….set`, `….erase`, `….submit`: one lemma an
  operation on criteria.
* `Query.Within.preset`, `Query.Within.edit`: presets and edits, accepted or
  refused.

## Design Notes

The bound is checked where a subquery is set, and nowhere else.  A preset that
is refused half way has dropped the criteria, so it is within the limits too.
-/

namespace EntityQuery

namespace Criteria

variable {criteria : Criteria} {limit : Nat}

theorem depth_filter_le (shallow : depth criteria ≤ limit) (keep : Criterion → Bool) :
    depth (criteria.filter keep) ≤ limit :=
  depth_le_iff.mpr fun c mem => depth_le_iff.mp shallow c (List.mem_filter.mp mem).1

theorem depth_set_le (shallow : depth criteria ≤ limit) {c : Criterion}
    (operand : c.predicate.depth ≤ limit) : depth (set c criteria) ≤ limit := by
  refine depth_le_iff.mpr fun x mem => ?_
  rw [(perm_set c criteria).mem_iff] at mem
  rcases List.mem_cons.mp mem with rfl | mem
  · exact operand
  · exact depth_le_iff.mp shallow x (List.mem_filter.mp mem).1

end Criteria

namespace BoundedCriteria

/-- The bound on nesting is `limit`, and the criteria keep to it. -/
structure KeepsTo (limit : Nat) (b : BoundedCriteria) : Prop where
  bound : b.maxDepth = limit
  shallow : b.depth ≤ limit

namespace KeepsTo

variable {limit : Nat} {b after : BoundedCriteria}

theorem empty (limit : Nat) : KeepsTo limit (.empty limit) :=
  ⟨rfl, Nat.zero_le _⟩

theorem put (keeps : KeepsTo limit b) (field : String) {p : Predicate} (operand : p.depth ≤ limit) :
    KeepsTo limit (b.put field p) :=
  ⟨keeps.bound, Criteria.depth_set_le keeps.shallow operand⟩

theorem set (keeps : KeepsTo limit b) {field : String} {p : Predicate}
    (accepted : b.set field p = .ok after) : KeepsTo limit after := by
  obtain ⟨shallow, rfl⟩ := set_eq_ok_iff.mp accepted
  exact keeps.put field (keeps.bound ▸ shallow)

theorem erase (keeps : KeepsTo limit b) (name : CriterionName) : KeepsTo limit (b.erase name).2 :=
  ⟨keeps.bound, Criteria.depth_filter_le keeps.shallow _⟩

theorem eraseWireName (keeps : KeepsTo limit b) (raw : String) :
    KeepsTo limit (b.eraseWireName raw).2 := by
  rw [BoundedCriteria.eraseWireName]
  split
  · exact keeps.erase _
  · exact keeps

theorem clear (keeps : KeepsTo limit b) : KeepsTo limit b.clear :=
  ⟨keeps.bound, Nat.zero_le _⟩

theorem submit (keeps : KeepsTo limit b) {form : CriterionForm} {added : Bool}
    (accepted : form.submit b = .ok (added, after)) : KeepsTo limit after := by
  obtain ⟨c?, -, accepted⟩ := Except.bind_eq_ok_iff.mp accepted
  cases c? with
  | none =>
    cases accepted
    exact keeps
  | some c =>
    obtain ⟨_, set, accepted⟩ := Except.bind_eq_ok_iff.mp accepted
    cases accepted
    exact keeps.set set

end KeepsTo

end BoundedCriteria

namespace Query

/-- The page size is positive, and the criteria keep to a bound on nesting. -/
structure Within (limit : Nat) (q : Query) : Prop where
  positive : 1 ≤ q.size
  filters : q.filters.KeepsTo limit

theorem one_le_max_one (size : UInt32) : 1 ≤ max size 1 := by
  change 1 ≤ if size ≤ 1 then 1 else size
  grind

namespace Within

variable {limit : Nat} {q : Query}

theorem resize (within : Within limit q) {n : UInt32} {after : Query}
    (accepted : q.resize n = .ok after) : Within limit after := by
  rw [Query.resize] at accepted
  split at accepted
  · cases accepted
  · cases accepted
    refine ⟨?_, within.filters⟩
    grind

theorem restart (within : Within limit q) (entity : String) (fields : List String) (size : UInt32)
    (distinct : Bool) : Within limit (q.restart entity fields size distinct) :=
  ⟨one_le_max_one size, within.filters.clear⟩

/-- Presets stay within the limits, also one that is refused. -/
theorem preset (within : Within limit q) (p : Preset) : Within limit (p.apply q).2 := by
  obtain ⟨entity, fields, size, distinct, filters, sorts, after, set⟩ := p.exists_apply_snd_eq q
  rw [after]
  refine ⟨(within.restart entity fields size distinct).positive, ?_⟩
  rcases set with rfl | ⟨field, operand, shallow, rfl⟩
  · exact within.filters.clear
  · exact within.filters.clear.put field (within.filters.bound ▸ shallow)

/-- The result of an edit of the criteria is within the limits if those criteria are. -/
theorem ofFilters (within : Within limit q)
    {r : Except CriteriaError (Edit.Answer × BoundedCriteria)}
    (keeps : ∀ answer b, r = .ok (answer, b) → b.KeepsTo limit) :
    Within limit (Edit.ofFilters q r).2 := by
  cases r with
  | error e => exact within
  | ok result => exact ⟨within.positive, keeps result.1 result.2 rfl⟩

theorem ofSorts (within : Within limit q) (r : Except SortError (Edit.Answer × SortOrder)) :
    Within limit (Edit.ofSorts q r).2 := by
  cases r with
  | error e => exact within
  | ok result => exact ⟨within.positive, within.filters⟩

/-- No edit leaves the limits, whatever the catalog. -/
theorem edit (within : Within limit q) (catalog : Catalog) (e : Edit) :
    Within limit (e.apply catalog q).2 := by
  cases e with
  | criterion field p =>
    refine within.ofFilters fun answer b accepted => ?_
    obtain ⟨_, set, same⟩ := Except.map_eq_ok_iff.mp accepted
    cases same
    exact within.filters.set set
  | form f =>
    refine within.ofFilters fun answer b accepted => ?_
    obtain ⟨_, submitted, same⟩ := Except.map_eq_ok_iff.mp accepted
    cases same
    exact within.filters.submit submitted
  | eraseCriterion name =>
    refine within.ofFilters fun answer b accepted => ?_
    cases accepted
    exact within.filters.erase name
  | eraseWireName raw =>
    refine within.ofFilters fun answer b accepted => ?_
    cases accepted
    exact within.filters.eraseWireName raw
  | clearCriteria =>
    refine within.ofFilters fun answer b accepted => ?_
    cases accepted
    exact within.filters.clear
  | addSortOn | sortField | sortDirection | eraseSort | clearSorts => exact within.ofSorts _
  | previousPage =>
    simp only [Edit.apply, Query.previousPage]
    split <;> exact ⟨within.positive, within.filters⟩
  | size n =>
    simp only [Edit.apply]
    split
    · rename_i resized
      exact within.resize resized
    · exact within
  | preset p => exact within.preset p
  -- What is left touches neither the page size nor the criteria.
  | _ => exact ⟨within.positive, within.filters⟩

end Within

end Query

end EntityQuery
