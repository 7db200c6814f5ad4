import EntityQuery.Criteria.Basic

/-!
# Levels of criteria

Criteria form trees: a subquery has criteria of its own.  A level of a tree is
the list at its root, or a level of one of its subqueries.

## Main Definitions

* `Criteria.HasLevel`: the levels of some criteria.
* `Criteria.EveryLevel`: a property of every level.

## Main Statements

* `Criteria.everyLevel_iff`: the levels are the root and those of the subqueries.
* `Criteria.induction`: what passes from the subqueries of a level to the level
  holds of all criteria.
* `Criteria.depth_le_iff`: bounds on the depth, one criterion at a time.
-/

namespace EntityQuery

namespace Criteria

/-- `level` is the whole of some criteria, or that of a subquery at any depth in them. -/
inductive HasLevel : Criteria → Criteria → Prop
  | root (criteria : Criteria) : HasLevel criteria criteria
  | nested {criteria level : Criteria} {field : String} {query : Subquery}
      (mem : ⟨field, .inSubquery query⟩ ∈ criteria) (inner : HasLevel query.filters level) :
      HasLevel criteria level

/-- Every level has a property. -/
def EveryLevel (P : Criteria → Prop) (criteria : Criteria) : Prop :=
  ∀ level, HasLevel criteria level → P level

end Criteria

/-- Every level of the subquery of a predicate, if it is one, has a property. -/
def Predicate.EveryLevel (P : Criteria → Prop) (predicate : Predicate) : Prop :=
  ∀ query, predicate = .inSubquery query → Criteria.EveryLevel P query.filters

namespace Predicate

theorem everyLevel_inSubquery {P : Criteria → Prop} {query : Subquery} :
    (Predicate.inSubquery query).EveryLevel P ↔ Criteria.EveryLevel P query.filters := by
  constructor
  · exact fun every => every query rfl
  · rintro every other ⟨rfl⟩
    exact every

theorem depth_inSubquery (query : Subquery) :
    (Predicate.inSubquery query).depth = 1 + Criteria.depth query.filters := by
  cases query
  rfl

/-- Predicates of the other kinds have no levels. -/
theorem everyLevel_of_kind_ne {P : Criteria → Prop} {predicate : Predicate}
    (plain : predicate.kind ≠ .inSubquery) : predicate.EveryLevel P := by
  rintro query rfl
  exact absurd rfl plain

end Predicate

namespace Criteria

theorem everyLevel_iff {P : Criteria → Prop} {criteria : Criteria} :
    EveryLevel P criteria ↔ P criteria ∧ ∀ c ∈ criteria, c.predicate.EveryLevel P := by
  constructor
  · intro every
    refine ⟨every _ (.root _), ?_⟩
    rintro ⟨field, predicate⟩ mem query rfl level inner
    exact every level (.nested mem inner)
  · rintro ⟨root, below⟩ level has
    cases has with
    | root => exact root
    | nested mem inner => exact below _ mem _ rfl level inner

theorem EveryLevel.root {P : Criteria → Prop} {criteria : Criteria}
    (every : EveryLevel P criteria) : P criteria :=
  (everyLevel_iff.mp every).1

theorem EveryLevel.imp {P Q : Criteria → Prop} (h : ∀ level, P level → Q level)
    {criteria : Criteria} (every : EveryLevel P criteria) : EveryLevel Q criteria :=
  fun level has => h level (every level has)

/-! ## Depth -/

/-- Criteria are as deep as the deepest of their predicates. -/
theorem depth_le_iff {criteria : Criteria} {bound : Nat} :
    depth criteria ≤ bound ↔ ∀ c ∈ criteria, c.predicate.depth ≤ bound := by
  induction criteria with
  | nil => simp [depth]
  | cons c rest ih =>
    obtain ⟨field, predicate⟩ := c
    rw [depth, Nat.max_le, ih, List.forall_mem_cons]

theorem depth_predicate_le {criteria : Criteria} {c : Criterion} (mem : c ∈ criteria) :
    c.predicate.depth ≤ depth criteria :=
  depth_le_iff.mp (Nat.le_refl _) c mem

/-- The criteria of a subquery are less deep than those around it. -/
theorem depth_filters_lt {criteria : Criteria} {field : String} {query : Subquery}
    (mem : ⟨field, .inSubquery query⟩ ∈ criteria) : depth query.filters < depth criteria := by
  have inside := depth_predicate_le mem
  rw [Predicate.depth_inSubquery] at inside
  omega

theorem mem_of_predicate_eq {criteria : Criteria} {c : Criterion} {p : Predicate}
    (mem : c ∈ criteria) (is : c.predicate = p) : ⟨c.field, p⟩ ∈ criteria := by
  obtain ⟨field, predicate⟩ := c
  exact is ▸ mem

/-- What passes from the subqueries of a level to the level holds of all criteria. -/
theorem induction {motive : Criteria → Prop}
    (step : ∀ criteria : Criteria,
      (∀ field query, ⟨field, .inSubquery query⟩ ∈ criteria → motive query.filters) →
        motive criteria)
    (criteria : Criteria) : motive criteria := by
  -- Going into a subquery makes the depth smaller.
  induction h : depth criteria using Nat.strongRecOn generalizing criteria with
  | ind n ih =>
    subst h
    exact step criteria fun _ _ mem => ih _ (depth_filters_lt mem) _ rfl

end Criteria

end EntityQuery
