import EntityQuery.Proofs.Criteria.Reading

/-!
# The grammar of criteria

Which JSON values stand for criteria, told by the names of members and the
shapes of their values, and without the reader.

## Main Definitions

* `Json.IsCriteria`, `Json.IsCriterion`, `Json.IsSubquery`: the grammar.
* `Json.filters`: the criteria of a subquery, null where there are none.
* `Criteria.ReadFrom`: the criteria that a value reads as; null reads as none.

## Main Statements

* `CriterionName.isCriterion_iff`: the grammar by the kinds that names stand for.
* `Predicate.ofJson_eq_ok_iff`: what a value reads as, one shape at a time.
* `Criteria.exists_readFrom_iff`: the reader accepts exactly the grammar.

## Design Notes

The kind of a criterion is told by the end of its name.  No name ends in two
suffixes, so the order in which they are tried does not matter.
-/

namespace EntityQuery

/-- A name ends in a text. -/
def EndsIn (ending name : String) : Prop :=
  ending.toList <:+ name.toList

instance (ending name : String) : Decidable (EndsIn ending name) :=
  inferInstanceAs (Decidable (_ <:+ _))

namespace Json

/-- A truth value, a number, or a string. -/
inductive IsScalar : Json → Prop
  | bool (b : Bool) : IsScalar (.bool b)
  | number (n : Number) : IsScalar (.number n)
  | string (s : String) : IsScalar (.string s)

/-- A name with a field in front of its suffix. -/
def HasField (name : String) : Prop :=
  name ∉ ["", "_like", "_between", "_inSubquery"]

instance (name : String) : Decidable (HasField name) :=
  inferInstanceAs (Decidable (_ ∉ _))

/-- The criteria of a subquery; null if it has no such member. -/
def filters (query : Json) : Json :=
  (query.member? "filters").getD .null

theorem filters_eq_null_or_mem (members : List (String × Json)) :
    filters (.object members) = .null ∨ ("filters", filters (.object members)) ∈ members := by
  rw [filters, member?]
  cases found : members.lookup "filters" with
  | none => exact .inl rfl
  | some v =>
    obtain ⟨before, after, rfl, -⟩ := List.lookup_eq_some_iff.mp found
    exact .inr (List.mem_append_right _ List.mem_cons_self)

mutual

/-- An object each of whose members is a criterion. -/
inductive IsCriteria : Json → Prop
  | object {members : List (String × Json)}
      (each : ∀ member ∈ members, IsCriterion member.1 member.2) : IsCriteria (.object members)

/-- A member of criteria: the end of its name tells the shape of its value. -/
inductive IsCriterion : String → Json → Prop
  | scalar {name : String} {v : Json} (named : HasField name) (noRange : ¬EndsIn "_between" name)
      (noSubquery : ¬EndsIn "_inSubquery" name) (operand : IsScalar v) : IsCriterion name v
  | range {name : String} {lower upper : Json} (named : HasField name)
      (ending : EndsIn "_between" name) (isLower : IsScalar lower) (isUpper : IsScalar upper) :
      IsCriterion name (.array [lower, upper])
  | subquery {name : String} {v : Json} (named : HasField name)
      (ending : EndsIn "_inSubquery" name) (query : IsSubquery v) : IsCriterion name v

/-- An object with an entity, a field, and criteria unless these are absent or null. -/
inductive IsSubquery : Json → Prop
  | object {members : List (String × Json)} {entity field : String}
      (hasEntity : members.lookup "entity" = some (.string entity))
      (hasField : members.lookup "field" = some (.string field))
      (hasFilters : filters (.object members) ≠ .null → IsCriteria (filters (.object members))) :
      IsSubquery (.object members)

end

/-- The value of a criterion of some kind. -/
def IsOperand (v : Json) : PredicateKind → Prop
  | .equals => v.IsScalar
  | .like => v.IsScalar
  | .between => ∃ lower upper, v = .array [lower, upper] ∧ lower.IsScalar ∧ upper.IsScalar
  | .inSubquery => v.IsSubquery

theorem IsCriterion.hasField {name : String} {v : Json} (h : IsCriterion name v) :
    HasField name := by
  cases h with
  | scalar named => exact named
  | range named => exact named
  | subquery named => exact named

theorem isScalar_iff {v : Json} : v.IsScalar ↔ ∃ s : Scalar, v = s.toJson := by
  constructor
  · intro h
    cases h with
    | bool b => exact ⟨.bool b, rfl⟩
    | number n => exact ⟨.number n, rfl⟩
    | string s => exact ⟨.text s, rfl⟩
  · rintro ⟨s, rfl⟩
    cases s with
    | bool b => exact .bool b
    | number n => exact .number n
    | text s => exact .string s

end Json

/-! ## Names -/

namespace CriterionName

variable {raw : String} {name : CriterionName}

theorem hasField_iff : Json.HasField raw ↔ ∃ name, ofWireName raw = .ok name :=
  exists_ofWireName_eq_ok_iff.symm

theorem kind_eq_between_iff (read : ofWireName raw = .ok name) :
    name.kind = .between ↔ EndsIn "_between" raw :=
  kind_eq_iff_isSuffix read (by decide)

theorem kind_eq_inSubquery_iff (read : ofWireName raw = .ok name) :
    name.kind = .inSubquery ↔ EndsIn "_inSubquery" raw :=
  kind_eq_iff_isSuffix read (by decide)

/-- A member is a criterion if its value is one of the kind that its name stands for. -/
theorem isCriterion_iff (read : ofWireName raw = .ok name) {v : Json} :
    Json.IsCriterion raw v ↔ v.IsOperand name.kind := by
  have named := hasField_iff.mpr ⟨name, read⟩
  have between := kind_eq_between_iff read
  have inSubquery := kind_eq_inSubquery_iff read
  constructor
  · intro h
    cases h with
    | scalar _ noRange noSubquery operand =>
      cases kind : name.kind with
      | equals => exact operand
      | like => exact operand
      | between => exact absurd (between.mp kind) noRange
      | inSubquery => exact absurd (inSubquery.mp kind) noSubquery
    | range _ ending isLower isUpper =>
      rw [between.mpr ending]
      exact ⟨_, _, rfl, isLower, isUpper⟩
    | subquery _ ending query =>
      rw [inSubquery.mpr ending]
      exact query
  · intro operand
    cases kind : name.kind with
    | between =>
      rw [kind] at operand
      obtain ⟨lower, upper, rfl, isLower, isUpper⟩ := operand
      exact .range named (between.mp kind) isLower isUpper
    | inSubquery =>
      rw [kind] at operand
      exact .subquery named (inSubquery.mp kind) operand
    | _ =>
      rw [kind] at operand between inSubquery
      exact .scalar named (fun ending => nomatch between.mpr ending)
        (fun ending => nomatch inSubquery.mpr ending) operand

end CriterionName

/-! ## Values of one criterion -/

theorem Scalar.operandOfJson_eq_ok_iff {wireName : String} {v : Json} {s : Scalar} :
    operandOfJson wireName v = .ok s ↔ v = s.toJson := by
  constructor
  · intro read
    rw [operandOfJson] at read
    split at read
    · rename_i found
      cases read
      exact eq_toJson_of_ofJson? found
    · cases read
  · rintro rfl
    rw [operandOfJson, ofJson?_toJson]

theorem SubqueryMember.read_eq_ok_iff {member : SubqueryMember} {members : List (String × Json)}
    {s : String} :
    SubqueryMember.read member members = .ok s ↔
      members.lookup member.name = some (.string s) := by
  rw [SubqueryMember.read]
  cases members.lookup member.name with
  | none => simp
  | some v => cases v <;> simp [Json.asString?]

/-- The criteria that a value reads as; null reads as none. -/
inductive Criteria.ReadFrom : Json → Criteria → Prop
  | null : ReadFrom .null []
  | object {members : List (String × Json)} {criteria : Criteria}
      (read : Criteria.ofMembers [] members = .ok criteria) : ReadFrom (.object members) criteria

/-- The criteria of a subquery are read from its `filters`. -/
theorem Criteria.ofFiltersMember_eq_ok_iff {wireName : String} {members : List (String × Json)}
    {criteria : Criteria} :
    ofFiltersMember wireName members = .ok criteria ↔
      ReadFrom (Json.filters (.object members)) criteria := by
  rw [ofFiltersMember_eq, Json.filters, Json.member?]
  constructor
  · intro read
    split at read
    · rename_i absent
      cases read
      rw [absent]
      exact .null
    · rename_i found
      cases read
      rw [found]
      exact .null
    · rename_i found
      rw [found]
      exact .object read
    · cases read
  · cases members.lookup "filters" with
    | none =>
      rintro ⟨⟩
      rfl
    | some v =>
      rintro (_ | read)
      · rfl
      · exact read

namespace Predicate

variable {wireName : String} {v : Json} {p : Predicate}

theorem rangeOfJson_eq_ok_iff :
    rangeOfJson wireName v = .ok p ↔
      ∃ lower upper : Scalar, v = .array [lower.toJson, upper.toJson] ∧ p = .between lower upper := by
  constructor
  · intro read
    unfold rangeOfJson at read
    split at read
    · split at read
      · rename_i lower upper isLower isUpper
        cases read
        cases Scalar.eq_toJson_of_ofJson? isLower
        cases Scalar.eq_toJson_of_ofJson? isUpper
        exact ⟨lower, upper, rfl, rfl⟩
      · cases read
    · cases read
  · rintro ⟨lower, upper, rfl, rfl⟩
    simp [rangeOfJson]

/-- The predicate that a value reads as, whatever its name. -/
inductive ReadFrom : Json → Predicate → Prop
  | equals (s : Scalar) : ReadFrom s.toJson (.equals s)
  | like (s : Scalar) : ReadFrom s.toJson (.like s)
  | between (lower upper : Scalar) :
      ReadFrom (.array [lower.toJson, upper.toJson]) (.between lower upper)
  | inSubquery {members : List (String × Json)} {query : Subquery}
      (entity : members.lookup "entity" = some (.string query.entity))
      (field : members.lookup "field" = some (.string query.field))
      (filters : Criteria.ReadFrom (Json.filters (.object members)) query.filters) :
      ReadFrom (.object members) (.inSubquery query)

theorem ofJson_eq_ok_iff {kind : PredicateKind} :
    ofJson kind wireName v = .ok p ↔ p.kind = kind ∧ ReadFrom v p := by
  by_cases subquery : kind = .inSubquery
  · subst subquery
    rw [ofJson_inSubquery_iff]
    simp only [SubqueryMember.read_eq_ok_iff, Criteria.ofFiltersMember_eq_ok_iff]
    constructor
    · rintro ⟨members, query, rfl, rfl, entity, field, filters⟩
      exact ⟨rfl, .inSubquery entity field filters⟩
    · rintro ⟨kind, read⟩
      cases read with
      | inSubquery entity field filters => exact ⟨_, _, rfl, rfl, entity, field, filters⟩
      | _ => cases kind
  · rw [ofJson_eq_ofPlainJson subquery]
    constructor
    · intro read
      refine ⟨(kind_of_ofPlainJson read).1, ?_⟩
      cases kind with
      | inSubquery => cases read
      | between =>
        obtain ⟨lower, upper, rfl, rfl⟩ := rangeOfJson_eq_ok_iff.mp read
        exact .between lower upper
      | _ =>
        obtain ⟨s, operand, rfl⟩ := Except.map_eq_ok_iff.mp read
        cases Scalar.operandOfJson_eq_ok_iff.mp operand
        constructor
    · rintro ⟨rfl, read⟩
      cases read with
      | inSubquery => exact absurd rfl subquery
      | between lower upper => exact rangeOfJson_eq_ok_iff.mpr ⟨lower, upper, rfl, rfl⟩
      | _ s => exact Except.map_eq_ok_iff.mpr ⟨s, Scalar.operandOfJson_eq_ok_iff.mpr rfl, rfl⟩

/-- What reads as a predicate of a kind are the operands of that kind, if the criteria within are
read so. -/
theorem exists_readFrom_iff {kind : PredicateKind}
    (below : (∃ criteria, Criteria.ReadFrom v.filters criteria) ↔
      (v.filters ≠ .null → v.filters.IsCriteria)) :
    (∃ p : Predicate, p.kind = kind ∧ ReadFrom v p) ↔ v.IsOperand kind := by
  constructor
  · rintro ⟨p, rfl, read⟩
    cases read with
    | equals s => exact Json.isScalar_iff.mpr ⟨s, rfl⟩
    | like s => exact Json.isScalar_iff.mpr ⟨s, rfl⟩
    | between lower upper =>
      exact ⟨_, _, rfl, Json.isScalar_iff.mpr ⟨lower, rfl⟩, Json.isScalar_iff.mpr ⟨upper, rfl⟩⟩
    | inSubquery entity field filters => exact .object entity field (below.mp ⟨_, filters⟩)
  · intro operand
    cases kind with
    | equals =>
      obtain ⟨s, rfl⟩ := Json.isScalar_iff.mp operand
      exact ⟨_, rfl, .equals s⟩
    | like =>
      obtain ⟨s, rfl⟩ := Json.isScalar_iff.mp operand
      exact ⟨_, rfl, .like s⟩
    | between =>
      obtain ⟨_, _, rfl, isLower, isUpper⟩ := operand
      obtain ⟨lower, rfl⟩ := Json.isScalar_iff.mp isLower
      obtain ⟨upper, rfl⟩ := Json.isScalar_iff.mp isUpper
      exact ⟨_, rfl, .between lower upper⟩
    | inSubquery =>
      cases operand with
      | @object members entity field hasEntity hasField hasFilters =>
        obtain ⟨criteria, read⟩ := below.mpr hasFilters
        exact ⟨.inSubquery ⟨entity, field, criteria⟩, rfl, .inSubquery hasEntity hasField read⟩

end Predicate

namespace Criterion

theorem readFrom_iff {member : String × Json} {c : Criterion} :
    ReadFrom member c ↔
      CriterionName.ofWireName member.1 = .ok c.name ∧ Predicate.ReadFrom member.2 c.predicate := by
  rw [ReadFrom, Predicate.ofJson_eq_ok_iff]
  exact and_congr_right fun _ => and_iff_right rfl

/-- The members that read as a criterion are those of the grammar, if their values are read so. -/
theorem exists_readFrom_iff {member : String × Json}
    (operand : ∀ kind, (∃ p : Predicate, p.kind = kind ∧ Predicate.ReadFrom member.2 p) ↔
      member.2.IsOperand kind) :
    (∃ c, ReadFrom member c) ↔ Json.IsCriterion member.1 member.2 := by
  constructor
  · rintro ⟨c, read⟩
    obtain ⟨named, read⟩ := readFrom_iff.mp read
    exact (CriterionName.isCriterion_iff named).mpr ((operand _).mp ⟨c.predicate, rfl, read⟩)
  · intro h
    obtain ⟨⟨field, kind⟩, named⟩ := CriterionName.hasField_iff.mp h.hasField
    obtain ⟨p, rfl, read⟩ := (operand kind).mpr ((CriterionName.isCriterion_iff named).mp h)
    exact ⟨⟨field, p⟩, readFrom_iff.mpr ⟨named, read⟩⟩

end Criterion

/-! ## Criteria -/

namespace Criteria

theorem readFrom_object_iff {members : List (String × Json)} {criteria : Criteria} :
    ReadFrom (.object members) criteria ↔ ofMembers [] members = .ok criteria := by
  constructor
  · rintro (_ | read)
    exact read
  · exact .object

/-- Members read as criteria if each of them reads as one. -/
theorem exists_ofMembers_eq_ok_iff {members : List (String × Json)} :
    (∃ criteria, ofMembers [] members = .ok criteria) ↔
      ∀ member ∈ members, ∃ c, Criterion.ReadFrom member c := by
  have each : (∃ more, List.Forall₂ Criterion.ReadFrom members more) ↔
      ∀ member ∈ members, ∃ c, Criterion.ReadFrom member c := by
    induction members with
    | nil => simp
    | cons member rest ih =>
      rw [List.forall_mem_cons, ← ih]
      constructor
      · rintro ⟨_, _ | ⟨head, reads⟩⟩
        exact ⟨⟨_, head⟩, _, reads⟩
      · rintro ⟨⟨c, head⟩, more, reads⟩
        exact ⟨c :: more, .cons head reads⟩
  simp only [ofMembers_eq_ok_iff, ← each]
  constructor
  · rintro ⟨_, more, reads, -⟩
    exact ⟨more, reads⟩
  · rintro ⟨more, reads⟩
    exact ⟨_, more, reads, rfl⟩

/-- Null aside, what reads as criteria are the values of the grammar. -/
theorem exists_readFrom_iff (v : Json) :
    (∃ criteria, ReadFrom v criteria) ↔ (v ≠ .null → v.IsCriteria) := by
  -- Between criteria and those of a subquery in them stands the subquery, so the claim is made of
  -- a value and of its `filters` at once.
  suffices both : ((∃ criteria, ReadFrom v criteria) ↔ (v ≠ .null → v.IsCriteria)) ∧
      ((∃ criteria, ReadFrom v.filters criteria) ↔ (v.filters ≠ .null → v.filters.IsCriteria)) from
    both.1
  have null : (∃ criteria, ReadFrom .null criteria) ↔
      ((.null : Json) ≠ .null → Json.null.IsCriteria) :=
    iff_of_true ⟨[], .null⟩ fun differ => absurd rfl differ
  induction v using Json.memberInduction with
  | object members ih =>
    constructor
    · have each : ∀ member ∈ members,
          (∃ c, Criterion.ReadFrom member c) ↔ Json.IsCriterion member.1 member.2 :=
        fun member mem => Criterion.exists_readFrom_iff fun kind =>
          Predicate.exists_readFrom_iff (ih member mem).2
      simp only [readFrom_object_iff, exists_ofMembers_eq_ok_iff]
      constructor
      · exact fun reads _ => .object fun member mem => (each member mem).mp (reads member mem)
      · intro fits
        cases fits nofun with
        | object criterion => exact fun member mem => (each member mem).mpr (criterion member mem)
    · rcases Json.filters_eq_null_or_mem members with absent | mem
      · rw [absent]
        exact null
      · exact (ih _ mem).1
  | other v noObject =>
    have noFilters : v.filters = .null := by
      cases v with
      | object members => exact absurd rfl (noObject members)
      | _ => rfl
    rw [noFilters]
    refine ⟨?_, null⟩
    by_cases isNull : v = .null
    · rw [isNull]
      exact null
    · refine iff_of_false ?_ fun fits => ?_
      · rintro ⟨_, _ | _⟩
        · exact isNull rfl
        · exact noObject _ rfl
      · cases fits isNull
        exact noObject _ rfl

end Criteria

end EntityQuery
