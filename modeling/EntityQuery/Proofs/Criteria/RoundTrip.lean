import EntityQuery.Proofs.Criteria.Built

/-!
# Reading back what was written

Criteria survive being written and read exactly if their names are canonical at
every level and the bound on the depth admits them.

## Main Statements

* `Criteria.ofMembers_members`: sorted criteria with canonical names are read
  back from their members.
* `BoundedCriteria.Built.ofJson_toJson_iff`: the round trip, with its exact
  domain.
-/

namespace EntityQuery

/-- Operands are read back. -/
theorem Predicate.ofPlainJson_toJson {p : Predicate} (plain : p.kind ≠ .inSubquery)
    (wireName : String) : ofPlainJson p.kind wireName p.toJson = .ok p := by
  cases p with
  | inSubquery => exact absurd rfl plain
  | _ => simp [ofPlainJson, kind, toJson, Scalar.operandOfJson, rangeOfJson, Except.map]

namespace Subquery

/-- A subquery is read back if its criteria are. -/
theorem ofJson_toJson {query : Subquery} (wireName : String)
    (filters : Criteria.ofMembers [] (Members.ofList (query.filters.map Criterion.member)) =
      .ok query.filters) :
    Predicate.ofJson .inSubquery wireName query.toJson = .ok (.inSubquery query) := by
  rw [toJson_eq, Predicate.ofJson_inSubquery_iff]
  refine ⟨_, query, rfl, rfl, by simp [SubqueryMember.read, SubqueryMember.name, Json.asString?],
    ?_, ?_⟩
  · simp [SubqueryMember.read, SubqueryMember.name, Json.asString?, Members.lookup_cons]
  · rw [Criteria.ofFiltersMember_eq, ← filters, Criteria.toJson_eq]
    simp [Members.lookup_cons]

end Subquery

namespace Criteria

/-- A criterion with a canonical name is read back from its member, if its subquery is. -/
theorem readFrom_member {c : Criterion} (canonical : c.name.IsCanonical)
    (below : ∀ query, c.predicate = .inSubquery query →
      ofMembers [] (Members.ofList (query.filters.map Criterion.member)) = .ok query.filters) :
    Criterion.ReadFrom c.member c := by
  refine ⟨CriterionName.ofWireName_wireName canonical, ?_⟩
  obtain ⟨field, predicate⟩ := c
  by_cases plain : predicate.kind = .inSubquery
  · cases predicate with
    | inSubquery query => exact Subquery.ofJson_toJson _ (below query rfl)
    | _ => cases plain
  · exact (Predicate.ofJson_eq_ofPlainJson plain _ _).trans
      (Predicate.ofPlainJson_toJson plain _)

/-- The members may stand in any order: placing restores the order of names. -/
theorem ofMembers_of_perm {criteria : Criteria} {members : List (String × Json)}
    (sorted : Sorted criteria) (perm : members.Perm (criteria.map Criterion.member))
    (reads : ∀ c ∈ criteria, Criterion.ReadFrom c.member c) :
    ofMembers [] members = .ok criteria := by
  have each : List.Forall₂ Criterion.ReadFrom (criteria.map Criterion.member) criteria := by
    rw [List.forall₂_map_left_iff, List.forall₂_same]
    exact reads
  obtain ⟨more, reads, same⟩ := List.perm_comp_forall₂ perm each
  have distinct : (([] ++ more).map Criterion.name).Nodup :=
    (same.map Criterion.name).nodup_iff.mpr sorted.keys_nodup
  refine ofMembers_eq_ok_iff.mpr ⟨more, reads, ?_⟩
  refine sorted.eq_of_perm (keyed_nil.sorted.placeAll more) ?_
  exact same.symm.trans (perm_placeAll distinct).symm

/-- Criteria with canonical names at every level are read back from their members. -/
theorem ofMembers_members (criteria : Criteria) (keyed : EveryLevel Keyed criteria)
    (canonical : EveryLevel Canonical criteria) :
    ofMembers [] (Members.ofList (criteria.map Criterion.member)) = .ok criteria := by
  induction criteria using Criteria.induction with
  | step criteria ih =>
    have keyed' := everyLevel_iff.mp keyed
    have canonical' := everyLevel_iff.mp canonical
    refine ofMembers_of_perm keyed.root.sorted (perm_members keyed.root.distinct) fun c mem => ?_
    refine readFrom_member (canonical.root c mem) fun query isQuery => ?_
    exact ih c.field query (mem_of_predicate_eq mem isQuery) (keyed'.2 c mem query isQuery)
      (canonical'.2 c mem query isQuery)

end Criteria

/-- Writing criteria and reading them within a bound answers the same criteria, exactly if their
names are canonical at every level and the bound admits their depth. -/
theorem BoundedCriteria.Built.ofJson_toJson_iff {b : BoundedCriteria} (built : b.Built)
    (maxDepth : Nat) :
    (∃ result, ofJson b.criteria.toJson maxDepth = .ok result ∧ result.criteria = b.criteria) ↔
      (∀ level, Criteria.HasLevel b.criteria level → ∀ c ∈ level, c.name.IsCanonical) ∧
        b.depth ≤ maxDepth := by
  constructor
  · rintro ⟨result, read, same⟩
    obtain ⟨members, -, read, -, shallow⟩ := ofJson_eq_ok_iff.mp read
    rw [same] at read
    refine ⟨fun level has => (Criteria.everyLevel_of_ofMembers read level has).canonical, ?_⟩
    rw [depth, same] at shallow
    exact shallow
  · rintro ⟨canonical, shallow⟩
    have read := Criteria.ofMembers_members b.criteria built.everyLevel_keyed canonical
    refine ⟨⟨b.criteria, maxDepth⟩, ofJson_eq_ok_iff.mpr ?_, rfl⟩
    exact ⟨_, Criteria.toJson_eq b.criteria, read, rfl, shallow⟩

/-- One subquery is read back within a bound of one, and not within a bound of zero. -/
theorem BoundedCriteria.Built.ofJson_toJson_iff_of_one_subquery :
    let inner := ((CriteriaEdit.like "name" (.text "John")).apply .empty).2
    let query : Subquery := { entity := "orders", field := "customer", filters := inner.criteria }
    let b := ((CriteriaEdit.inSubquery "id" query).apply .empty).2
    b.Built ∧ (∃ result, ofJson b.criteria.toJson 1 = .ok result ∧ result.criteria = b.criteria) ∧
      ¬∃ result, ofJson b.criteria.toJson 0 = .ok result ∧ result.criteria = b.criteria := by
  intro inner query b
  have built : b.Built := .subquery (.empty _) "id" (.edit (.empty _) _ nofun : inner.Built)
  have canonical : Criteria.EveryLevel Criteria.Canonical b.criteria := by
    refine Criteria.everyLevel_iff.mpr ⟨fun c mem => ?_, fun c mem => ?_⟩
    · cases List.mem_singleton.mp mem
      decide
    · cases List.mem_singleton.mp mem
      refine Predicate.everyLevel_inSubquery.mpr (Criteria.everyLevel_iff.mpr ⟨?_, ?_⟩)
      · intro c mem
        cases List.mem_singleton.mp mem
        decide
      · intro c mem
        cases List.mem_singleton.mp mem
        exact Predicate.everyLevel_of_kind_ne (by decide)
  refine ⟨built, (built.ofJson_toJson_iff 1).mpr ⟨canonical, by decide⟩, fun within => ?_⟩
  exact absurd ((built.ofJson_toJson_iff 0).mp within).2 (by decide)

end EntityQuery
