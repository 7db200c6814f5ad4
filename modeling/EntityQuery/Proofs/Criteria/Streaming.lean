import EntityQuery.Proofs.Criteria.Built
import EntityQuery.Proofs.Json.Reordering
import EntityQuery.Proofs.Query.Request

/-!
# Streamed criteria

Criteria are written in two ways: streamed in the order of their names, or as
an object sorted by wire name.  Both write the same unordered value.

## Main Statements

* `Criteria.namesDistinct_wire`: a streamed object repeats no name, at any depth.
* `BoundedCriteria.Built.wire_reorders_toJson`: the two objects are reorderings of
  each other, for criteria, subqueries and requests.

## Design Notes

The two orders do differ: as a field `a` comes before `aB`, but on the wire
`a_like` comes after `aB`.
-/

namespace EntityQuery

/-- Operands hold no object. -/
theorem Scalar.namesDistinct_toJson (s : Scalar) : s.toJson.NamesDistinct := by
  cases s <;> exact Json.namesDistinct_leaf nofun nofun

namespace Subquery

/-- A streamed subquery repeats no name if its criteria do not. -/
theorem namesDistinct_wire_of_filters {query : Subquery}
    (filters : (Criteria.wire query.filters).NamesDistinct) : query.wire.NamesDistinct := by
  have text (s : String) : (Json.string s).NamesDistinct := Json.namesDistinct_leaf nofun nofun
  rw [wire_eq, Json.namesDistinct_object_iff]
  refine ⟨(sorted_members _ _ _).distinct, ?_⟩
  simp only [List.forall_mem_cons]
  exact ⟨text _, text _, filters, List.forall_mem_nil _⟩

end Subquery

namespace Criteria

theorem wire_eq (criteria : Criteria) :
    criteria.wire = .object (criteria.map fun c => (c.wireName, c.predicate.wire)) := by
  rw [wire, wireMembers_eq_map]

/-- A streamed object repeats no name at any depth, if criteria have distinct wire names there. -/
theorem namesDistinct_wire {criteria : Criteria} (distinct : EveryLevel WireDistinct criteria) :
    criteria.wire.NamesDistinct := by
  induction criteria using Criteria.induction with
  | step criteria ih =>
    obtain ⟨root, below⟩ := everyLevel_iff.mp distinct
    rw [wire_eq, Json.namesDistinct_object_iff, Members.Distinct, List.map_map]
    refine ⟨root, List.forall_mem_map.mpr ?_⟩
    rintro ⟨field, predicate⟩ mem
    cases predicate with
    | inSubquery query =>
      exact Subquery.namesDistinct_wire_of_filters (ih field query mem (below _ mem query rfl))
    | between lower upper =>
      refine Json.namesDistinct_array_iff.mpr ?_
      simp only [List.forall_mem_cons]
      exact ⟨lower.namesDistinct_toJson, upper.namesDistinct_toJson, List.forall_mem_nil _⟩
    | equals operand => exact operand.namesDistinct_toJson
    | like pattern => exact pattern.namesDistinct_toJson

end Criteria

namespace BoundedCriteria.Built

variable {b : BoundedCriteria}

/-- Streamed and sorted objects are the same unordered value.  The streamed one has the criteria in
the order of their names and repeats no name at any depth; the sorted one moves its members and
drops none.  The same goes for subqueries with these criteria, and for the `filters` of requests. -/
theorem wire_reorders_toJson (built : b.Built) :
    Criteria.EveryLevel Criteria.Sorted b.criteria ∧
    b.criteria.wire = .object (b.criteria.map fun c => (c.wireName, c.predicate.wire)) ∧
    b.criteria.wire.NamesDistinct ∧
    b.criteria.wire.Reorders b.criteria.toJson ∧
    b.criteria.toJson.IsNormal ∧
    (∀ query : Subquery, query.filters = b.criteria →
      query.wire.NamesDistinct ∧ query.wire.Reorders query.toJson) ∧
    ∀ r : PageRequest, r.filters = b →
      r.wire.member? "filters" = some b.criteria.wire ∧
        r.toJson.member? "filters" = some b.criteria.toJson := by
  have keyed := built.everyLevel_keyed
  have distinct := Criteria.namesDistinct_wire (keyed.imp fun _ => Criteria.Keyed.distinct)
  have reorders := Json.reorders_normalize distinct
  rw [Criteria.normalize_wire] at reorders
  refine ⟨keyed.imp fun _ => Criteria.Keyed.sorted, b.criteria.wire_eq, distinct, reorders,
    b.criteria.isNormal_toJson, fun query same => ?_, fun r same => ?_⟩
  · rw [← same] at distinct
    have distinct' := Subquery.namesDistinct_wire_of_filters distinct
    have reorders' := Json.reorders_normalize distinct'
    rw [Subquery.normalize_wire_of_filters (Criteria.normalize_wire query.filters)] at reorders'
    exact ⟨distinct', reorders'⟩
  · subst same
    rw [PageRequest.toJson_eq]
    exact ⟨rfl, rfl⟩

/-- Two criteria that are streamed in one order and sorted in the other, in a subquery. -/
theorem wire_reorders_toJson_of_swapped :
    let like := ((CriteriaEdit.like "a" (.text "x")).apply .empty).2
    let b := ((CriteriaEdit.equals "aB" (.bool true)).apply like).2
    let query : Subquery := { entity := "orders", field := "customer", filters := b.criteria }
    b.Built ∧
      b.criteria.wire = .object [("a_like", .string "x"), ("aB", .bool true)] ∧
      b.criteria.toJson = .object [("aB", .bool true), ("a_like", .string "x")] ∧
      query.wire.Reorders query.toJson := by
  intro like b query
  have first : like.Built := .edit (.empty _) _ nofun
  have built : b.Built := .edit first _ nofun
  have subqueries := built.wire_reorders_toJson.2.2.2.2.2.1
  exact ⟨built, rfl, rfl, (subqueries query rfl).2⟩

end BoundedCriteria.Built

end EntityQuery
