import EntityQuery.Proofs.Criteria.Level
import EntityQuery.Proofs.Criteria.Order
import EntityQuery.Proofs.Json.Normal

/-!
# Criteria as members

Criteria with distinct wire names have one member each in their JSON object,
under the wire name.  The members are sorted by name, where the streamed object
has them in the order of the criteria.

## Main Statements

* `Criteria.perm_members`: the members of the object, sorted, are those of the
  criteria.
* `Criteria.member?_toJson`: what stands under a name.
* `Criteria.member?_toJson_set`, `Criteria.member?_toJson_erase`: the object
  after setting or erasing a criterion.
* `Criteria.toJson_setAll`: the object after setting some criteria in order.
* `Criteria.normalize_wire`: the streamed object is the same up to the order of
  members.
-/

namespace EntityQuery

/-- The member of a criterion: its wire name, and its predicate as JSON. -/
def Criterion.member (c : Criterion) : String × Json :=
  (c.wireName, c.predicate.toJson)

namespace Criteria

theorem sortedMembers_eq_map (criteria : Criteria) :
    sortedMembers criteria = criteria.map Criterion.member := by
  induction criteria with
  | nil => rfl
  | cons c rest ih =>
    obtain ⟨field, predicate⟩ := c
    rw [sortedMembers, List.map_cons, ih]
    rfl

theorem toJson_eq (criteria : Criteria) :
    toJson criteria = .object (Members.ofList (criteria.map Criterion.member)) := by
  rw [toJson, sortedMembers_eq_map]

theorem WireDistinct.members {criteria : Criteria} (distinct : WireDistinct criteria) :
    Members.Distinct (criteria.map Criterion.member) := by
  rw [Members.Distinct, List.map_map]
  exact distinct

/-- Each criterion has one member in the object, and there are no others. -/
theorem perm_members {criteria : Criteria} (distinct : WireDistinct criteria) :
    (Members.ofList (criteria.map Criterion.member)).Perm (criteria.map Criterion.member) :=
  Members.perm_ofList distinct.members

/-- Under a name stands the JSON value of the predicate with that wire name. -/
theorem member?_toJson {criteria : Criteria} (distinct : WireDistinct criteria) {name : String}
    {v : Json} :
    (toJson criteria).member? name = some v ↔
      ∃ c ∈ criteria, c.wireName = name ∧ c.predicate.toJson = v := by
  rw [toJson_eq, Json.member?, Members.lookup_ofList distinct.members,
    Members.lookup_eq_some_iff distinct.members, List.mem_map]
  simp [Criterion.member]

/-- Setting a criterion overwrites one member and leaves the others. -/
theorem member?_toJson_set {criteria : Criteria} (keyed : Keyed criteria) (c : Criterion)
    (name : String) :
    (toJson (set c criteria)).member? name =
      if name = c.wireName then some c.predicate.toJson else (toJson criteria).member? name := by
  apply Option.ext
  intro v
  rw [member?_toJson (keyed.set c).distinct]
  have mem_set : ∀ x, x ∈ set c criteria ↔ x = c ∨ x ∈ criteria ∧ x.wireName ≠ c.wireName := by
    intro x
    simp [(perm_set c criteria).mem_iff]
  by_cases hit : name = c.wireName
  · subst hit
    simp only [mem_set, if_true, Option.some.injEq]
    constructor
    · rintro ⟨x, rfl | ⟨-, other⟩, same, rfl⟩
      · rfl
      · exact absurd same other
    · rintro rfl
      exact ⟨c, .inl rfl, rfl, rfl⟩
  · rw [if_neg hit, member?_toJson keyed.distinct]
    constructor
    · rintro ⟨x, mem, rfl, rfl⟩
      rcases (mem_set x).mp mem with rfl | ⟨mem, -⟩
      · exact absurd rfl hit
      · exact ⟨x, mem, rfl, rfl⟩
    · rintro ⟨x, mem, rfl, rfl⟩
      exact ⟨x, (mem_set x).mpr (.inr ⟨mem, hit⟩), rfl, rfl⟩

/-- Setting a criterion overwrites one member of the object, also where wire names stand twice. -/
theorem members_set (c : Criterion) (criteria : Criteria) :
    Members.ofList ((set c criteria).map Criterion.member) =
      Members.overwrite (Members.ofList (criteria.map Criterion.member)) [c.member] := by
  rw [← Members.ofList_append]
  -- The two lists differ in order, and of each name only the last member counts.
  refine Members.ofList_eq_of_lookup_eq fun name => ?_
  have of_name : ∀ criteria : Criteria, (criteria.map Criterion.member).filter (·.1 = name) =
      (criteria.filter (·.wireName = name)).map Criterion.member :=
    fun criteria => List.filter_map
  rw [Members.lookup_ofList_eq_reverse, Members.lookup_ofList_eq_reverse, List.reverse_concat]
  by_cases hit : c.wireName = name
  · subst hit
    rw [← Members.lookup_filter, List.filter_reverse, of_name, filter_set_eq]
    rw [Criterion.member, List.lookup_cons_self]
    exact List.lookup_cons_self
  · have others : (set c criteria).filter (·.wireName = name) =
        criteria.filter (·.wireName = name) :=
      filter_set (fun x same => decide_eq_false (same.trans_ne hit)) criteria
    rw [Criterion.member, Members.lookup_cons, if_neg (Ne.symm hit)]
    rw [← Members.lookup_filter, List.filter_reverse, of_name, others, ← of_name,
      ← List.filter_reverse, Members.lookup_filter]

/-- Sets criteria one after the other. -/
def setAll (criteria : Criteria) (more : List Criterion) : Criteria :=
  more.foldl (fun criteria c => set c criteria) criteria

/-- Setting criteria one after the other overwrites members of the object in that order. -/
theorem toJson_setAll (criteria : Criteria) (more : List Criterion) :
    toJson (setAll criteria more) = .object
      (Members.overwrite (Members.ofList (criteria.map Criterion.member))
        (more.map Criterion.member)) := by
  rw [toJson_eq]
  refine congrArg Json.object ?_
  induction more generalizing criteria with
  | nil => rfl
  | cons c rest ih =>
    rw [setAll, List.foldl_cons, ← setAll, ih, members_set]
    rfl

/-- Erasing a criterion that is there deletes its member and leaves the others. -/
theorem member?_toJson_erase {criteria : Criteria} (keyed : Keyed criteria) {c : Criterion}
    (mem : c ∈ criteria) (name : String) :
    (toJson (erase c.name criteria)).member? name =
      if name = c.wireName then none else (toJson criteria).member? name := by
  apply Option.ext
  intro v
  rw [member?_toJson (keyed.erase c.name).distinct]
  -- Within the list, going by the name of `c` and having its wire name come to the same.
  have same_name : ∀ x ∈ criteria, x.wireName = c.wireName → x.name = c.name := by
    intro x mem' wires
    rw [List.inj_on_of_nodup_map keyed.distinct mem' mem wires]
  have mem_erase : ∀ x, x ∈ erase c.name criteria ↔ x ∈ criteria ∧ x.name ≠ c.name := by
    intro x
    simp [erase]
  by_cases hit : name = c.wireName
  · subst hit
    simp only [mem_erase, if_true, reduceCtorEq, iff_false]
    rintro ⟨x, ⟨mem', other⟩, wires, -⟩
    exact other (same_name x mem' wires)
  · rw [if_neg hit, member?_toJson keyed.distinct]
    constructor
    · rintro ⟨x, mem', rfl, rfl⟩
      exact ⟨x, ((mem_erase x).mp mem').1, rfl, rfl⟩
    · rintro ⟨x, mem', rfl, rfl⟩
      have other : x.name ≠ c.name := fun same => hit (congrArg CriterionName.wireName same)
      exact ⟨x, (mem_erase x).mpr ⟨mem', other⟩, rfl, rfl⟩

end Criteria

/-! ## The streamed object -/

theorem Scalar.normalize_toJson (s : Scalar) : s.toJson.normalize = s.toJson := by
  cases s <;> rfl

namespace Subquery

theorem toJson_eq (query : Subquery) :
    query.toJson = .object [("entity", .string query.entity), ("field", .string query.field),
      ("filters", Criteria.toJson query.filters)] := by
  cases query
  rfl

theorem wire_eq (query : Subquery) :
    query.wire = .object [("entity", .string query.entity), ("field", .string query.field),
      ("filters", Criteria.wire query.filters)] := by
  cases query
  rfl

/-- The three members of a subquery stand in the order of their names. -/
theorem sorted_members (entity field filters : Json) :
    Members.Sorted [("entity", entity), ("field", field), ("filters", filters)] :=
  Members.sorted_iff_names.mpr (by decide : ["entity", "field", "filters"].Pairwise (· < ·))

/-- A streamed subquery differs from the sorted one in the order of members only, if its criteria
do. -/
theorem normalize_wire_of_filters {query : Subquery}
    (filters : (Criteria.wire query.filters).normalize = Criteria.toJson query.filters) :
    query.wire.normalize = query.toJson := by
  rw [wire_eq, toJson_eq, ← filters, Json.normalize_object]
  exact congrArg _ (Members.ofList_eq_of_perm (sorted_members _ _ _) (.refl _))

end Subquery

namespace Criteria

theorem wireMembers_eq_map (criteria : Criteria) :
    wireMembers criteria = criteria.map fun c => (c.wireName, c.predicate.wire) := by
  induction criteria with
  | nil => rfl
  | cons c rest ih =>
    obtain ⟨field, predicate⟩ := c
    rw [wireMembers, List.map_cons, ih]
    rfl

/-- The streamed object and the sorted one differ in the order of members only. -/
theorem normalize_wire (criteria : Criteria) : criteria.wire.normalize = criteria.toJson := by
  induction criteria using Criteria.induction with
  | step criteria ih =>
    have each : ∀ c ∈ criteria, (c.wireName, c.predicate.wire.normalize) = c.member := by
      rintro ⟨field, predicate⟩ mem
      refine Prod.ext rfl ?_
      cases predicate with
      | inSubquery query => exact Subquery.normalize_wire_of_filters (ih field query mem)
      | between lower upper =>
        simp [Criterion.member, Predicate.wire, Predicate.toJson, Json.normalize,
          Json.normalizeItems, Scalar.normalize_toJson]
      | _ => exact Scalar.normalize_toJson _
    rw [wire, wireMembers_eq_map, Json.normalize_object, List.map_map, toJson_eq]
    exact congrArg (fun members => Json.object (Members.ofList members)) (List.map_congr_left each)

theorem isNormal_toJson (criteria : Criteria) : criteria.toJson.IsNormal := by
  rw [← normalize_wire]
  exact Json.isNormal_normalize _

end Criteria

end EntityQuery
