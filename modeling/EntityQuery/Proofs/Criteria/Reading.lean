import Mathlib.Data.List.Perm.Basic
import EntityQuery.Criteria.Reading
import EntityQuery.Proofs.Criteria.Level
import EntityQuery.Proofs.Criteria.Name
import EntityQuery.Proofs.Criteria.Order
import EntityQuery.Proofs.Except
import EntityQuery.Proofs.Json.Members

/-!
# What criteria are read from

Reading goes through the members of an object one by one, and looks into the
`filters` member of a subquery.  Here it is told without the recursion: which
members read as which criteria, and what holds of everything that was read.

## Main Definitions

* `Criterion.ReadFrom`: the criterion that a member reads as.
* `Criteria.Canonical`, `Criteria.Orderly`: the names that are read, and in order.

## Main Statements

* `Criteria.ofMembers_eq_ok_iff`: members read as the criteria of each, placed
  in order.
* `Criteria.ofFiltersMember_eq`, `Predicate.ofJson_inSubquery_iff`: reading a
  subquery.
* `Criteria.everyLevel_of_ofMembers`: whatever was read is sorted at every level,
  and has canonical names only.
* `BoundedCriteria.ofJson_eq_ok_iff`: reading within a bound on the depth.
-/

namespace EntityQuery

/-- Of two lists that correspond, what is in the one has its match in the other. -/
theorem exists_of_mem_left {α β : Type} {R : α → β → Prop} {xs : List α} {ys : List β}
    (corresponds : List.Forall₂ R xs ys) {x : α} (mem : x ∈ xs) : ∃ y ∈ ys, R x y := by
  induction corresponds with
  | nil => cases mem
  | cons head _ ih =>
    rcases List.mem_cons.mp mem with rfl | mem
    · exact ⟨_, List.mem_cons_self, head⟩
    · obtain ⟨y, inside, related⟩ := ih mem
      exact ⟨y, List.mem_cons_of_mem _ inside, related⟩

/-- Of two lists that correspond, the images are the same if those of each match are. -/
theorem map_eq_map_of_corresponds {α β γ : Type} {R : α → β → Prop} {xs : List α} {ys : List β}
    {f : α → γ} {g : β → γ} (corresponds : List.Forall₂ R xs ys)
    (each : ∀ x ∈ xs, ∀ y ∈ ys, R x y → f x = g y) : xs.map f = ys.map g := by
  induction corresponds with
  | nil => rfl
  | cons head _ ih =>
    rw [List.map_cons, List.map_cons, each _ List.mem_cons_self _ List.mem_cons_self head]
    rw [ih fun x memX y memY => each x (List.mem_cons_of_mem _ memX) y (List.mem_cons_of_mem _ memY)]

/-- A member reads as a criterion. -/
def Criterion.ReadFrom (member : String × Json) (c : Criterion) : Prop :=
  CriterionName.ofWireName member.1 = .ok c.name ∧
    Predicate.ofJson c.predicate.kind c.wireName member.2 = .ok c.predicate

namespace Predicate

theorem ofJson_eq_ofPlainJson {kind : PredicateKind} (plain : kind ≠ .inSubquery)
    (wireName : String) (v : Json) : ofJson kind wireName v = ofPlainJson kind wireName v := by
  cases v with
  | object members => rw [ofJson, if_neg plain]
  | _ => rfl

/-- The predicate of a plain value is of the kind that was asked for. -/
theorem kind_of_ofPlainJson {kind : PredicateKind} {wireName : String} {v : Json} {p : Predicate}
    (read : ofPlainJson kind wireName v = .ok p) : p.kind = kind ∧ kind ≠ .inSubquery := by
  cases kind with
  | equals =>
    obtain ⟨s, -, rfl⟩ := Except.map_eq_ok_iff.mp read
    exact ⟨rfl, nofun⟩
  | like =>
    obtain ⟨s, -, rfl⟩ := Except.map_eq_ok_iff.mp read
    exact ⟨rfl, nofun⟩
  | between =>
    rw [ofPlainJson] at read
    unfold rangeOfJson at read
    split at read
    · split at read
      · cases read
        exact ⟨rfl, nofun⟩
      · cases read
    · cases read
  | inSubquery => cases read

/-- A subquery is read from an object with its three members. -/
theorem ofJson_inSubquery_iff {wireName : String} {v : Json} {p : Predicate} :
    ofJson .inSubquery wireName v = .ok p ↔ ∃ members query, v = .object members ∧
      p = .inSubquery query ∧ SubqueryMember.read .entity members = .ok query.entity ∧
        SubqueryMember.read .field members = .ok query.field ∧
          Criteria.ofFiltersMember wireName members = .ok query.filters := by
  cases v with
  | object members =>
    rw [ofJson, if_pos rfl, Except.map_eq_ok_iff]
    simp only [Subquery.ofMembers, Except.bind_eq_ok_iff, pure, Except.pure, Except.ok.injEq]
    constructor
    · rintro ⟨query, ⟨entity, hEntity, field, hField, filters, hFilters, rfl⟩, rfl⟩
      exact ⟨members, _, rfl, rfl, hEntity, hField, hFilters⟩
    · rintro ⟨_, ⟨entity, field, filters⟩, ⟨rfl⟩, rfl, hEntity, hField, hFilters⟩
      exact ⟨_, ⟨entity, hEntity, field, hField, filters, hFilters, rfl⟩, rfl⟩
  | _ => simp [ofJson, ofPlainJson]

theorem kind_of_ofJson {kind : PredicateKind} {wireName : String} {v : Json} {p : Predicate}
    (read : ofJson kind wireName v = .ok p) : p.kind = kind := by
  by_cases plain : kind = .inSubquery
  · subst plain
    obtain ⟨_, query, -, rfl, -⟩ := ofJson_inSubquery_iff.mp read
    rfl
  · rw [ofJson_eq_ofPlainJson plain] at read
    exact (kind_of_ofPlainJson read).1

end Predicate

namespace Criteria

/-- The criteria of a subquery stand in its `filters` member, and an absent or null one has none. -/
theorem ofFiltersMember_eq (wireName : String) (members : List (String × Json)) :
    ofFiltersMember wireName members =
      match members.lookup "filters" with
      | none => .ok []
      | some .null => .ok []
      | some (.object inner) => ofMembers [] inner
      | some _ => .error (.invalidValue wireName .subqueryFiltersNotObject) := by
  induction members with
  | nil => rfl
  | cons member rest ih =>
    obtain ⟨name, v⟩ := member
    by_cases found : name = "filters"
    · subst found
      rw [ofFiltersMember.eq_def, List.lookup_cons_self]
      cases v <;> rfl
    · have test : ("filters" == name) = false := beq_false_of_ne (Ne.symm found)
      rw [List.lookup_cons, test, ← ih, ofFiltersMember.eq_def]
      exact if_neg found

/-- Members read as criteria one by one, and each is placed among those before it. -/
theorem ofMembers_eq_ok_iff {criteria result : Criteria} {members : List (String × Json)} :
    ofMembers criteria members = .ok result ↔
      ∃ more, List.Forall₂ Criterion.ReadFrom members more ∧ result = placeAll criteria more := by
  induction members generalizing criteria with
  | nil => simp [ofMembers, placeAll, eq_comm]
  | cons member rest ih =>
    obtain ⟨raw, v⟩ := member
    simp only [ofMembers, Except.bind_eq_ok_iff, ih]
    constructor
    · rintro ⟨name, hName, p, hp, more, reads, rfl⟩
      have kinds := Predicate.kind_of_ofJson hp
      obtain ⟨field, kind⟩ := name
      subst kinds
      exact ⟨⟨field, p⟩ :: more, .cons ⟨hName, hp⟩ reads, rfl⟩
    · rintro ⟨_, reads, rfl⟩
      cases reads with
      | @cons _ c _ _ head reads =>
        obtain ⟨field, p⟩ := c
        exact ⟨_, head.1, p, head.2, _, reads, rfl⟩

/-- Every name is one that a wire name stands for. -/
def Canonical (criteria : Criteria) : Prop :=
  ∀ c ∈ criteria, c.name.IsCanonical

/-- Canonical criteria in the order of their names. -/
structure Orderly (criteria : Criteria) : Prop where
  sorted : Sorted criteria
  canonical : Canonical criteria

theorem everyLevel_nil {P : Criteria → Prop} (h : P []) : EveryLevel P [] :=
  everyLevel_iff.mpr ⟨h, fun _ mem => absurd mem List.not_mem_nil⟩

theorem orderly_nil : Orderly [] :=
  ⟨List.Pairwise.nil, fun _ mem => absurd mem List.not_mem_nil⟩

/-- On canonical names, the wire names are distinct because the names are. -/
theorem Orderly.keyed {criteria : Criteria} (orderly : Orderly criteria) : Keyed criteria := by
  refine ⟨orderly.sorted, ?_⟩
  rw [WireDistinct, List.nodup_iff_pairwise_ne, List.pairwise_map]
  have names := orderly.sorted.keys_nodup
  rw [List.nodup_iff_pairwise_ne, List.pairwise_map] at names
  refine names.imp_of_mem fun {a b} memA memB differ wires => differ ?_
  exact (orderly.canonical a memA).eq_of_wireName_eq (orderly.canonical b memB) wires

theorem exists_member_of_mem {members : List (String × Json)} {more : List Criterion}
    (reads : List.Forall₂ Criterion.ReadFrom members more) {c : Criterion} (mem : c ∈ more) :
    ∃ member ∈ members, Criterion.ReadFrom member c :=
  exists_of_mem_left reads.flip mem

/-- What the members of an object read as is orderly, if the predicates among them are. -/
private theorem everyLevel_of_members {members : List (String × Json)} {result : Criteria}
    (below : ∀ member ∈ members, ∀ kind wireName p,
      Predicate.ofJson kind wireName member.2 = .ok p → p.EveryLevel Orderly)
    (read : ofMembers [] members = .ok result) : EveryLevel Orderly result := by
  obtain ⟨more, reads, rfl⟩ := ofMembers_eq_ok_iff.mp read
  have from_member : ∀ c ∈ placeAll [] more, ∃ member ∈ members, Criterion.ReadFrom member c := by
    intro c mem
    have inside : c ∈ more := (mem_placeAll mem).resolve_left List.not_mem_nil
    exact exists_member_of_mem reads inside
  refine everyLevel_iff.mpr ⟨⟨orderly_nil.sorted.placeAll more, fun c mem => ?_⟩, fun c mem => ?_⟩
  · obtain ⟨member, -, named, -⟩ := from_member c mem
    exact (CriterionName.ofWireName_eq_ok_iff.mp named).2
  · obtain ⟨member, inside, -, read⟩ := from_member c mem
    exact below member inside _ _ _ read

/-- What stands in a `filters` member is orderly, if what its value reads as is. -/
private theorem everyLevel_of_filtersMember {wireName : String} {members : List (String × Json)}
    {result : Criteria}
    (below : ∀ member ∈ members, ∀ inner result, member.2 = .object inner →
      ofMembers [] inner = .ok result → EveryLevel Orderly result)
    (read : ofFiltersMember wireName members = .ok result) : EveryLevel Orderly result := by
  rw [ofFiltersMember_eq] at read
  split at read
  · cases read
    exact everyLevel_nil orderly_nil
  · cases read
    exact everyLevel_nil orderly_nil
  · rename_i inner found
    obtain ⟨before, after, rfl, -⟩ := List.lookup_eq_some_iff.mp found
    exact below _ (List.mem_append_right _ List.mem_cons_self) inner result rfl read
  · cases read

/-- Whatever a value reads as, as a predicate or as criteria, is orderly at every level. -/
theorem everyLevel_of_json (v : Json) :
    (∀ kind wireName p, Predicate.ofJson kind wireName v = .ok p → p.EveryLevel Orderly) ∧
      ∀ members result, v = .object members → ofMembers [] members = .ok result →
        EveryLevel Orderly result := by
  induction v using Json.memberInduction with
  | object members ih =>
    constructor
    · intro kind wireName p read
      by_cases plain : kind = .inSubquery
      · subst plain
        obtain ⟨_, query, ⟨rfl⟩, rfl, -, -, read⟩ := Predicate.ofJson_inSubquery_iff.mp read
        rw [Predicate.everyLevel_inSubquery]
        exact everyLevel_of_filtersMember (fun member mem => (ih member mem).2) read
      · rw [← Predicate.kind_of_ofJson read] at plain
        exact Predicate.everyLevel_of_kind_ne plain
    · rintro _ result ⟨rfl⟩ read
      exact everyLevel_of_members (fun member mem => (ih member mem).1) read
  | other v noObject =>
    constructor
    · intro kind wireName p read
      apply Predicate.everyLevel_of_kind_ne
      rintro isSubquery
      rw [Predicate.kind_of_ofJson read] at isSubquery
      subst isSubquery
      obtain ⟨members, _, rfl, -⟩ := Predicate.ofJson_inSubquery_iff.mp read
      exact noObject members rfl
    · rintro members _ rfl
      exact absurd rfl (noObject members)

/-- Criteria that were read are orderly at every level. -/
theorem everyLevel_of_ofMembers {members : List (String × Json)} {result : Criteria}
    (read : ofMembers [] members = .ok result) : EveryLevel Orderly result :=
  (everyLevel_of_json (.object members)).2 members result rfl read

end Criteria

/-! ## Reading within a bound -/

/-- Within a bound exactly the trees are read that are not deeper. -/
theorem BoundedCriteria.ofJson_eq_ok_iff {v : Json} {maxDepth : Nat} {b : BoundedCriteria} :
    ofJson v maxDepth = .ok b ↔ ∃ members, v = .object members ∧
      Criteria.ofMembers [] members = .ok b.criteria ∧ b.maxDepth = maxDepth ∧
        b.depth ≤ maxDepth := by
  obtain ⟨criteria, bound⟩ := b
  cases v with
  | object members =>
    simp only [ofJson, Except.bind_eq_ok_iff, depth]
    constructor
    · rintro ⟨result, read, bounded⟩
      split at bounded
      · cases bounded
      · rename_i shallow
        cases bounded
        exact ⟨members, rfl, read, rfl, Nat.not_lt.mp shallow⟩
    · rintro ⟨_, ⟨rfl⟩, read, rfl, shallow⟩
      exact ⟨criteria, read, if_neg (Nat.not_lt.mpr shallow)⟩
  | _ => simp [ofJson]

namespace Subquery

/-- A value reads as a subquery on its own as it does as a predicate. -/
theorem ofAnyJson_eq_ok_iff {wireName : String} {v : Json} {query : Subquery} :
    ofAnyJson wireName v = .ok query ↔
      Predicate.ofJson .inSubquery wireName v = .ok (.inSubquery query) := by
  cases v with
  | object members =>
    rw [Predicate.ofJson, if_pos rfl, Except.map_eq_ok_iff, ofAnyJson]
    simp
  | _ => simp [ofAnyJson, Predicate.ofJson, Predicate.ofPlainJson]

theorem ofJson_eq_ok_iff {v : Json} {maxDepth : Nat} {query : Subquery} :
    ofJson v maxDepth = .ok query ↔
      ofAnyJson "subquery" v = .ok query ∧ query.depth ≤ maxDepth := by
  simp only [ofJson, Except.bind_eq_ok_iff]
  constructor
  · rintro ⟨result, read, bounded⟩
    split at bounded
    · cases bounded
    · rename_i shallow
      cases bounded
      exact ⟨read, Nat.not_lt.mp shallow⟩
  · rintro ⟨read, shallow⟩
    exact ⟨query, read, if_neg (Nat.not_lt.mpr shallow)⟩

/-- The criteria of a subquery that was read are orderly at every level. -/
theorem everyLevel_of_ofJson {v : Json} {maxDepth : Nat} {query : Subquery}
    (read : ofJson v maxDepth = .ok query) :
    Criteria.EveryLevel Criteria.Orderly query.filters := by
  have predicate := ofAnyJson_eq_ok_iff.mp (ofJson_eq_ok_iff.mp read).1
  exact Predicate.everyLevel_inSubquery.mp ((Criteria.everyLevel_of_json v).1 _ _ _ predicate)

end Subquery

end EntityQuery
