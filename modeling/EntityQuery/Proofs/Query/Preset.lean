import EntityQuery.Query.Preset

/-!
# What presets do

Every preset starts over, and then sets at most one criterion and one sort.  The
last one may be refused its criterion, which is a subquery, and has started over
all the same.

## Main Definitions

* `Preset.salesStart`: what the last preset has replaced when it may be refused.

## Main Statements

* `Preset.apply_salesSubquery`: what the last preset does, refused or not.
* `Preset.exists_apply_snd_eq`: what every preset does, refused or not.
-/

namespace EntityQuery

namespace Preset

/-- The query from which the last preset starts, before it sets its subquery. -/
def salesStart (q : Query) : Query :=
  q.restart "Employee" ["id", "name", "department.name"] 10 false

/-- The last preset starts over first, and then sets a subquery, if there may be any. -/
theorem apply_salesSubquery (q : Query) :
    salesSubquery.apply q =
      if q.filters.maxDepth = 0 then (.error (.criteria (.tooDeep 1 0)), salesStart q)
      else (.ok (), { salesStart q with
        filters := q.filters.clear.put "department.id" (.inSubquery salesDepartments)
        sorts := SortOrder.empty.appendField "name" }) := by
  have start : (salesStart q).filters = q.filters.clear := rfl
  have levels : (Predicate.inSubquery salesDepartments).depth = 1 := rfl
  have bound : q.filters.clear.maxDepth = q.filters.maxDepth := rfl
  simp only [apply]
  rw [← salesStart, start]
  by_cases none : q.filters.maxDepth = 0
  · rw [if_pos none, BoundedCriteria.set_of_lt_depth (by omega), levels, bound, none]
  · rw [if_neg none, BoundedCriteria.set_of_depth_le (by omega)]
    rfl

/-- What is left by a preset, refused or not, has started over.  There is at most one criterion,
nested no deeper than the bound allows. -/
theorem exists_apply_snd_eq (p : Preset) (q : Query) :
    ∃ entity fields size distinct filters sorts,
      (p.apply q).2 = { q.restart entity fields size distinct with filters, sorts } ∧
        (filters = q.filters.clear ∨ ∃ field operand, operand.depth ≤ q.filters.maxDepth ∧
          filters = q.filters.clear.put field operand) := by
  cases p with
  | nameLike | salaryRange =>
    exact ⟨_, _, _, _, _, _, rfl, .inr ⟨_, _, Nat.zero_le _, rfl⟩⟩
  | distinctDepartments => exact ⟨_, _, _, _, _, _, rfl, .inl rfl⟩
  | salesSubquery =>
    rw [apply_salesSubquery]
    by_cases none : q.filters.maxDepth = 0
    · rw [if_pos none]
      exact ⟨"Employee", ["id", "name", "department.name"], 10, false, _, .empty, rfl, .inl rfl⟩
    · rw [if_neg none]
      have shallow : (Predicate.inSubquery salesDepartments).depth ≤ q.filters.maxDepth :=
        Nat.one_le_iff_ne_zero.mpr none
      exact ⟨_, _, _, _, _, _, rfl, .inr ⟨_, _, shallow, rfl⟩⟩

end Preset

end EntityQuery
