import EntityQuery.Criteria.Basic

/-!
# Bounded criteria

Criteria as a map by name, with a bound on the nesting of subqueries.

## Main Definitions

* `Criteria.place`, `Criteria.set`: put a criterion at its place.
* `Criteria.predicate?`, `Criteria.erase`: look up and drop a name.
* `BoundedCriteria`: criteria with the bound.
* `BoundedCriteria.put`, `BoundedCriteria.set`: set a predicate on a field,
  whatever its depth or within the bound.

## Design Notes

Criteria are unique by wire name, not by name: an equality on `name_like` and a
substring match on `name` share one wire name, and the later of the two
replaces the earlier.
-/

namespace EntityQuery

namespace Criteria

/-- Puts a criterion at the place of its name, over one of the same name. -/
def place (c : Criterion) : Criteria → Criteria
  | [] => [c]
  | x :: rest =>
    if c.name = x.name then c :: rest
    else if c.name.lt x.name then c :: x :: rest
    else x :: place c rest

/-- Puts a criterion in place of every criterion with its wire name. -/
def set (c : Criterion) (criteria : Criteria) : Criteria :=
  place c (criteria.filter (·.wireName ≠ c.wireName))

/-- The predicate under a name. -/
def predicate? (name : CriterionName) (criteria : Criteria) : Option Predicate :=
  (criteria.find? (·.name = name)).map (·.predicate)

/-- The criteria without the one of a name. -/
def erase (name : CriterionName) (criteria : Criteria) : Criteria :=
  criteria.filter (·.name ≠ name)

end Criteria

/-- Criteria with a bound on the nesting of subqueries. -/
structure BoundedCriteria where
  criteria : Criteria
  maxDepth : Nat
deriving BEq

namespace BoundedCriteria

/-- The bound where nothing else is said. -/
def defaultMaxDepth : Nat := 8

/-- No criteria, with a bound. -/
def empty (maxDepth : Nat := defaultMaxDepth) : BoundedCriteria :=
  { criteria := [], maxDepth }

instance : Inhabited BoundedCriteria := ⟨empty⟩

/-- The deepest level of subqueries. -/
def depth (b : BoundedCriteria) : Nat :=
  Criteria.depth b.criteria

/-- Sets a predicate on a field, whatever its depth. -/
def put (field : String) (predicate : Predicate) (b : BoundedCriteria) : BoundedCriteria :=
  { b with criteria := b.criteria.set { field, predicate } }

/-- Sets a predicate on a field, unless its subqueries are nested too deep. -/
def set (field : String) (predicate : Predicate) (b : BoundedCriteria) :
    Except CriteriaError BoundedCriteria :=
  if b.maxDepth < predicate.depth then .error (.tooDeep predicate.depth b.maxDepth)
  else .ok (b.put field predicate)

theorem set_of_depth_le {field : String} {predicate : Predicate} {b : BoundedCriteria}
    (shallow : predicate.depth ≤ b.maxDepth) :
    b.set field predicate = .ok (b.put field predicate) :=
  if_neg (Nat.not_lt.mpr shallow)

theorem set_of_lt_depth {field : String} {predicate : Predicate} {b : BoundedCriteria}
    (deep : b.maxDepth < predicate.depth) :
    b.set field predicate = .error (.tooDeep predicate.depth b.maxDepth) :=
  if_pos deep

/-- What is accepted is within the bound, and is set. -/
theorem set_eq_ok_iff {field : String} {predicate : Predicate} {b after : BoundedCriteria} :
    b.set field predicate = .ok after ↔
      predicate.depth ≤ b.maxDepth ∧ after = b.put field predicate := by
  cases Nat.lt_or_ge b.maxDepth predicate.depth with
  | inl deep =>
    rw [set_of_lt_depth deep]
    exact iff_of_false nofun fun accepted => Nat.not_lt.mpr accepted.1 deep
  | inr shallow =>
    rw [set_of_depth_le shallow, Except.ok.injEq, eq_comm]
    exact (and_iff_right shallow).symm

/-- The predicate under a name. -/
def predicate? (name : CriterionName) (b : BoundedCriteria) : Option Predicate :=
  b.criteria.predicate? name

/-- The criteria without a name, and the predicate that was under it. -/
def erase (name : CriterionName) (b : BoundedCriteria) : Option Predicate × BoundedCriteria :=
  (b.predicate? name, { b with criteria := b.criteria.erase name })

/-- The criteria without what a wire name stands for. -/
def eraseWireName (raw : String) (b : BoundedCriteria) : Option Predicate × BoundedCriteria :=
  match CriterionName.ofWireName raw with
  | .ok name => b.erase name
  | .error _ => (none, b)

/-- The bound alone, without any criterion. -/
def clear (b : BoundedCriteria) : BoundedCriteria :=
  empty b.maxDepth

end BoundedCriteria

end EntityQuery
