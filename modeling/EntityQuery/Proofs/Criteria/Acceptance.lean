import Mathlib.Order.Bounds.Basic
import EntityQuery.Proofs.Criteria.Grammar
import EntityQuery.Proofs.Criteria.Writing

/-!
# What reading criteria keeps

The criteria that a value of the grammar reads as are the value itself, up to
members of subqueries that mean nothing.  They are as deep as its longest chain
of subqueries.

## Main Definitions

* `Json.HasChain`: chains of subqueries, each in the criteria of the one before.
* `Json.trimmed`: criteria whose subqueries have their three members only.

## Main Statements

* `Criteria.exists_perm_of_ofMembers`: the criteria that members read as.
* `Criteria.ReadFrom.hasChain_iff`, `Criteria.ReadFrom.toJson_eq`: the depth of
  criteria and their JSON value, by what they are read from.
* `BoundedCriteria.ofJson_eq_ok_iff_isCriteria`: reading within a bound on the depth.

## Design Notes

A value in memory is normal: its objects are sorted by name.  So no name stands
twice, and no criterion takes the place of another.
-/

namespace EntityQuery

namespace Json

/-! ## Chains of subqueries -/

/-- A number of subqueries in criteria, each in the criteria of the one before. -/
inductive HasChain : Json → Nat → Prop
  | nil (v : Json) : HasChain v 0
  | cons {members : List (String × Json)} {name : String} {query : Json} {n : Nat}
      (mem : (name, query) ∈ members) (ending : EndsIn "_inSubquery" name)
      (below : HasChain query.filters n) : HasChain (.object members) (n + 1)

theorem hasChain_object_succ_iff {members : List (String × Json)} {n : Nat} :
    HasChain (.object members) (n + 1) ↔
      ∃ member ∈ members, EndsIn "_inSubquery" member.1 ∧ HasChain member.2.filters n := by
  constructor
  · rintro (_ | ⟨mem, ending, below⟩)
    exact ⟨_, mem, ending, below⟩
  · rintro ⟨⟨name, query⟩, mem, ending, below⟩
    exact .cons mem ending below

theorem hasChain_null_iff {n : Nat} : HasChain .null n ↔ n = 0 := by
  constructor
  · rintro ⟨⟩
    rfl
  · rintro rfl
    exact .nil _

/-! ## Trimming subqueries -/

mutual

/-- Criteria whose subqueries have their three members only; null has no criteria. -/
def trimmed : Json → Json
  | .null => .object []
  | .object members => .object (trimmedMembers members)
  | .bool b => .bool b
  | .number n => .number n
  | .string s => .string s
  | .array items => .array items
termination_by structural v => v

/-- The members of some criteria, the values of subqueries trimmed. -/
def trimmedMembers : List (String × Json) → List (String × Json)
  | [] => []
  | (name, v) :: rest =>
    (name, if EndsIn "_inSubquery" name then trimmedSubquery v else v) :: trimmedMembers rest
termination_by structural members => members

/-- A subquery with its three members only. -/
def trimmedSubquery : Json → Json
  | .object members =>
    .object [("entity", (members.lookup "entity").getD .null),
      ("field", (members.lookup "field").getD .null), ("filters", trimmedFilters members)]
  | .null => .null
  | .bool b => .bool b
  | .number n => .number n
  | .string s => .string s
  | .array items => .array items
termination_by structural v => v

/-- The trimmed criteria in the `filters` member of a subquery. -/
def trimmedFilters : List (String × Json) → Json
  | [] => .object []
  | (name, v) :: rest => if name = "filters" then trimmed v else trimmedFilters rest
termination_by structural members => members

end

theorem trimmedMembers_eq_map (members : List (String × Json)) :
    trimmedMembers members = members.map fun member =>
      (member.1, if EndsIn "_inSubquery" member.1 then trimmedSubquery member.2 else member.2) := by
  induction members with
  | nil => rfl
  | cons member rest ih =>
    obtain ⟨name, v⟩ := member
    rw [trimmedMembers, ih, List.map_cons]

theorem trimmedFilters_eq (members : List (String × Json)) :
    trimmedFilters members = (filters (.object members)).trimmed := by
  induction members with
  | nil => rfl
  | cons member rest ih =>
    obtain ⟨name, v⟩ := member
    rw [trimmedFilters, ih, filters, filters, member?, member?, Members.lookup_cons]
    by_cases found : name = "filters"
    · simp [found]
    · simp [found, Ne.symm found]

theorem IsNormal.filters {v : Json} (normal : v.IsNormal) : v.filters.IsNormal := by
  cases v with
  | object members =>
    rcases filters_eq_null_or_mem members with absent | mem
    · rw [absent]
      trivial
    · exact (isNormal_object_iff.mp normal).2 _ mem
  | _ => trivial

end Json

/-! ## One criterion -/

namespace Criterion

variable {member : String × Json} {c : Criterion}

/-- The criteria of a subquery are read from the `filters` of the value. -/
theorem ReadFrom.filters (read : ReadFrom member c) {query : Subquery}
    (isQuery : c.predicate = .inSubquery query) :
    Criteria.ReadFrom member.2.filters query.filters := by
  obtain ⟨name, v⟩ := member
  have read := (readFrom_iff.mp read).2
  rw [isQuery] at read
  cases read with
  | inSubquery entity field filters => exact filters

theorem ReadFrom.endsIn_iff (read : ReadFrom member c) :
    EndsIn "_inSubquery" member.1 ↔ c.predicate.kind = .inSubquery :=
  (CriterionName.kind_eq_inSubquery_iff (readFrom_iff.mp read).1).symm

/-- A criterion is deeper than the chains below the member that it is read from. -/
theorem ReadFrom.hasChain_iff (read : ReadFrom member c) {n : Nat}
    (below : ∀ query, c.predicate = .inSubquery query →
      (member.2.filters.HasChain n ↔ n ≤ Criteria.depth query.filters)) :
    EndsIn "_inSubquery" member.1 ∧ member.2.filters.HasChain n ↔ n < c.predicate.depth := by
  rw [read.endsIn_iff]
  cases predicate : c.predicate with
  | inSubquery query =>
    rw [below query predicate, Predicate.depth_inSubquery]
    simp only [Predicate.kind, true_and]
    omega
  | _ => simp [Predicate.kind, Predicate.depth]

/-- A criterion is written as the member that it is read from, with its subquery trimmed. -/
theorem ReadFrom.member_eq (read : ReadFrom member c)
    (below : ∀ query, c.predicate = .inSubquery query →
      member.2.filters.trimmed = Criteria.toJson query.filters) :
    (member.1, if EndsIn "_inSubquery" member.1 then member.2.trimmedSubquery else member.2) =
      c.member := by
  have ending := read.endsIn_iff
  obtain ⟨named, read⟩ := readFrom_iff.mp read
  refine Prod.ext (CriterionName.ofWireName_eq_ok_iff.mp named).1 ?_
  obtain ⟨name, v⟩ := member
  obtain ⟨field, predicate⟩ := c
  cases read with
  | @inSubquery members query entity field filters =>
    have kept : (Json.object members).trimmedSubquery = query.toJson := by
      rw [Json.trimmedSubquery, entity, field, Json.trimmedFilters_eq, below query rfl,
        Subquery.toJson_eq]
      rfl
    exact (if_pos (ending.mpr rfl)).trans kept
  | _ => exact if_neg fun isSubquery => nomatch ending.mp isSubquery

end Criterion

/-! ## Criteria -/

namespace Criteria

/-- Distinct members read as the criteria of each, in the order of their names. -/
theorem exists_perm_of_ofMembers {members : List (String × Json)} {criteria : Criteria}
    (distinct : Members.Distinct members) (read : ofMembers [] members = .ok criteria) :
    ∃ more, List.Forall₂ Criterion.ReadFrom members more ∧ criteria.Perm more := by
  obtain ⟨more, reads, rfl⟩ := ofMembers_eq_ok_iff.mp read
  have wires : members.map (·.1) = more.map (·.wireName) :=
    map_eq_map_of_corresponds reads fun _ _ _ _ head =>
      (CriterionName.ofWireName_eq_ok_iff.mp head.1).1
  have names : (more.map Criterion.name).Nodup := by
    apply List.Nodup.of_map CriterionName.wireName
    rw [List.map_map]
    exact wires ▸ distinct
  exact ⟨more, reads, perm_placeAll names⟩

/-- Criteria are deeper than a bound if one of their predicates is. -/
theorem lt_depth_iff {criteria : Criteria} {bound : Nat} :
    bound < depth criteria ↔ ∃ c ∈ criteria, bound < c.predicate.depth := by
  rw [← Nat.not_le, depth_le_iff]
  simp

variable {v : Json} {criteria : Criteria}

/-- What passes from the subqueries in an object to the object holds of all that is read from a
normal value. -/
theorem ReadFrom.induction {motive : Json → Criteria → Prop} (null : motive .null [])
    (object : ∀ members more (criteria : Criteria), Members.Sorted members →
      List.Forall₂ Criterion.ReadFrom members more → criteria.Perm more →
      (∀ member ∈ members, ∀ c ∈ more, Criterion.ReadFrom member c →
        ∀ query, c.predicate = .inSubquery query → motive member.2.filters query.filters) →
      motive (.object members) criteria)
    (read : ReadFrom v criteria) (normal : v.IsNormal) : motive v criteria := by
  induction criteria using Criteria.induction generalizing v with
  | step criteria ih =>
    cases read with
    | null => exact null
    | @object members _ read =>
      obtain ⟨sorted, below⟩ := Json.isNormal_object_iff.mp normal
      obtain ⟨more, reads, perm⟩ := exists_perm_of_ofMembers sorted.distinct read
      refine object members more criteria sorted reads perm ?_
      intro member mem c inside read query isQuery
      exact ih c.field query (mem_of_predicate_eq (perm.mem_iff.mpr inside) isQuery)
        (read.filters isQuery) (below member mem).filters

/-- The chains of subqueries in a value are those up to the depth of what it reads as. -/
theorem ReadFrom.hasChain_iff (read : ReadFrom v criteria) (normal : v.IsNormal) (n : Nat) :
    v.HasChain n ↔ n ≤ depth criteria := by
  refine ReadFrom.induction (motive := fun v criteria => ∀ n, v.HasChain n ↔ n ≤ depth criteria)
    (fun n => Json.hasChain_null_iff.trans Nat.le_zero.symm) ?_ read normal n
  rintro members more criteria - reads perm ih (_ | n)
  · exact iff_of_true (.nil _) (Nat.zero_le _)
  · have each : ∀ member ∈ members, ∀ c ∈ more, Criterion.ReadFrom member c →
        (EndsIn "_inSubquery" member.1 ∧ member.2.filters.HasChain n ↔ n < c.predicate.depth) :=
      fun member mem c inside read =>
        read.hasChain_iff fun query isQuery => ih member mem c inside read query isQuery n
    rw [Json.hasChain_object_succ_iff, Nat.succ_le_iff, lt_depth_iff]
    constructor
    · rintro ⟨member, mem, chain⟩
      obtain ⟨c, inside, read⟩ := exists_of_mem_left reads mem
      exact ⟨c, perm.mem_iff.mpr inside, (each member mem c inside read).mp chain⟩
    · rintro ⟨c, inside, deep⟩
      have inside := perm.mem_iff.mp inside
      obtain ⟨member, mem, read⟩ := exists_member_of_mem reads inside
      exact ⟨member, mem, (each member mem c inside read).mpr deep⟩

/-- What is read is written as the value, trimmed. -/
theorem ReadFrom.toJson_eq (read : ReadFrom v criteria) (normal : v.IsNormal) :
    v.trimmed = criteria.toJson := by
  refine ReadFrom.induction (motive := fun v criteria => v.trimmed = toJson criteria) rfl ?_ read
    normal
  intro members more criteria sorted reads perm ih
  have kept : Json.trimmedMembers members = more.map Criterion.member := by
    rw [Json.trimmedMembers_eq_map]
    exact map_eq_map_of_corresponds reads fun member mem c inside read =>
      read.member_eq (ih member mem c inside read)
  have sorted' : Members.Sorted (Json.trimmedMembers members) := by
    rw [Json.trimmedMembers_eq_map, Members.sorted_iff_names, List.map_map]
    exact Members.sorted_iff_names.mp sorted
  rw [Json.trimmed, Criteria.toJson_eq]
  refine congrArg Json.object (Members.ofList_eq_of_perm sorted' ?_).symm
  rw [kept]
  exact perm.map Criterion.member

/-- The longest chain is as long as the criteria are deep. -/
theorem ReadFrom.isGreatest_depth (read : ReadFrom v criteria) (normal : v.IsNormal) :
    IsGreatest {n | v.HasChain n} (depth criteria) :=
  ⟨(read.hasChain_iff normal _).mpr (Nat.le_refl _), fun n => (read.hasChain_iff normal n).mp⟩

end Criteria

/-! ## Reading within a bound -/

namespace BoundedCriteria

/-- Reading within a bound is reading, and then comparing the depth. -/
theorem ofJson_eq_of_readFrom {members : List (String × Json)} {criteria : Criteria}
    (read : Criteria.ReadFrom (.object members) criteria) (maxDepth : Nat) :
    ofJson (.object members) maxDepth =
      if maxDepth < Criteria.depth criteria then
        .error (.tooDeep (Criteria.depth criteria) maxDepth)
      else .ok ⟨criteria, maxDepth⟩ := by
  rw [ofJson, Criteria.readFrom_object_iff.mp read]
  rfl

theorem ofJson_eq_ok_iff_readFrom {v : Json} {maxDepth : Nat} {b : BoundedCriteria} :
    ofJson v maxDepth = .ok b ↔ v ≠ .null ∧ Criteria.ReadFrom v b.criteria ∧
      b.maxDepth = maxDepth ∧ b.depth ≤ maxDepth := by
  rw [ofJson_eq_ok_iff]
  constructor
  · rintro ⟨members, rfl, read, bounded⟩
    exact ⟨nofun, .object read, bounded⟩
  · obtain ⟨criteria, bound⟩ := b
    rintro ⟨notNull, read, bounded⟩
    cases read with
    | null => exact absurd rfl notNull
    | object read => exact ⟨_, rfl, read, bounded⟩

/-- Within a bound exactly the criteria of the grammar are read that have no longer chain of
subqueries.  What is read is as deep as the longest chain and is written as the value, trimmed.
Where the chain is too long, that is the error. -/
theorem ofJson_eq_ok_iff_isCriteria {v : Json} (normal : v.IsNormal) (maxDepth : Nat) :
    ((∃ b, ofJson v maxDepth = .ok b) ↔ v.IsCriteria ∧ ∀ n, v.HasChain n → n ≤ maxDepth) ∧
      (∀ b, ofJson v maxDepth = .ok b → IsGreatest {n | v.HasChain n} b.depth ∧
        b.maxDepth = maxDepth ∧ b.criteria.toJson = v.trimmed) ∧
      (v.IsCriteria → ∃ depth, IsGreatest {n | v.HasChain n} depth ∧
        (maxDepth < depth → ofJson v maxDepth = .error (.tooDeep depth maxDepth))) := by
  have accepted : v.IsCriteria → ∃ members criteria, v = .object members ∧
      Criteria.ReadFrom v criteria := by
    intro fits
    obtain ⟨criteria, read⟩ := (Criteria.exists_readFrom_iff v).mpr fun _ => fits
    cases fits with
    | object => exact ⟨_, criteria, rfl, read⟩
  refine ⟨⟨?_, ?_⟩, ?_, ?_⟩
  · rintro ⟨b, read⟩
    obtain ⟨notNull, read, -, shallow⟩ := ofJson_eq_ok_iff_readFrom.mp read
    refine ⟨(Criteria.exists_readFrom_iff v).mp ⟨_, read⟩ notNull, fun n chain => ?_⟩
    exact ((read.hasChain_iff normal n).mp chain).trans shallow
  · rintro ⟨fits, bounded⟩
    obtain ⟨members, criteria, rfl, read⟩ := accepted fits
    have shallow := bounded _ (read.isGreatest_depth normal).1
    exact ⟨_, (ofJson_eq_of_readFrom read maxDepth).trans (if_neg (Nat.not_lt.mpr shallow))⟩
  · intro b read
    obtain ⟨-, read, bound, -⟩ := ofJson_eq_ok_iff_readFrom.mp read
    exact ⟨read.isGreatest_depth normal, bound, (read.toJson_eq normal).symm⟩
  · intro fits
    obtain ⟨members, criteria, rfl, read⟩ := accepted fits
    refine ⟨Criteria.depth criteria, read.isGreatest_depth normal, fun deep => ?_⟩
    exact (ofJson_eq_of_readFrom read maxDepth).trans (if_pos deep)

/-- A subquery without `filters` and with a member that means nothing is read within a bound of
one, and not within a bound of zero. -/
theorem ofJson_eq_ok_iff_isCriteria_of_one_subquery :
    let v : Json := .object [("id_inSubquery",
      .object [("entity", .string "orders"), ("extra", .null), ("field", .string "customer")])]
    v.IsNormal ∧
      (∃ b, ofJson v 1 = .ok b ∧ b.depth = 1 ∧
        b.criteria.toJson = .object [("id_inSubquery", .object [("entity", .string "orders"),
          ("field", .string "customer"), ("filters", .object [])])]) ∧
      ofJson v 0 = .error (.tooDeep 1 0) := by
  intro v
  have normal : v.IsNormal := by
    simp only [v, Json.isNormal_object_iff, Members.sorted_iff_names, List.forall_mem_singleton]
    exact ⟨by decide, by decide, by simp [Json.IsNormal]⟩
  have fits : v.IsCriteria := by
    refine .object fun member mem => ?_
    rw [List.mem_singleton.mp mem]
    exact .subquery (by decide) (by decide) (.object rfl rfl fun present => absurd rfl present)
  have longest : IsGreatest {n | v.HasChain n} 1 := by
    refine ⟨.cons List.mem_cons_self (by decide) (.nil _), ?_⟩
    rintro (_ | n) chain
    · exact Nat.zero_le _
    · obtain ⟨member, mem, -, below⟩ := Json.hasChain_object_succ_iff.mp chain
      rw [List.mem_singleton.mp mem] at below
      rw [Json.hasChain_null_iff.mp below]
  have within_one := ofJson_eq_ok_iff_isCriteria normal 1
  have within_zero := ofJson_eq_ok_iff_isCriteria normal 0
  refine ⟨normal, ?_, ?_⟩
  · obtain ⟨b, read⟩ := within_one.1.mpr ⟨fits, fun n chain => longest.2 chain⟩
    obtain ⟨deepest, -, written⟩ := within_one.2.1 b read
    exact ⟨b, read, deepest.unique longest, written⟩
  · obtain ⟨depth, deepest, tooDeep⟩ := within_zero.2.2 fits
    cases deepest.unique longest
    exact tooDeep Nat.one_pos

end BoundedCriteria

end EntityQuery
