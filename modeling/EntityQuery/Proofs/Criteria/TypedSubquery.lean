import EntityQuery.Proofs.Criteria.Form
import EntityQuery.Proofs.Json.Text

/-!
# Subqueries that are typed

A subquery comes in as the text of a form or as a member of criteria on the wire.
Both ways it is read by the same rules and held against the same bound, so what
is accepted the one way is accepted the other.

## Main Statements

* `Subquery.ofAnyJson_agree`: the name on a value has no part in reading it.
* `BoundedCriteria.ofJson_subqueryMember`, `CriterionForm.submit_subquery`: the
  two ways, each as one comparison with the bound.
* `CriterionForm.submit_subquery_agrees`: they agree.

## Design Notes

The wire name is read back to find the kind of a member.  A field that ends in a
suffix itself makes no difference: the suffix for subqueries stands behind it.
-/

namespace EntityQuery

/-- The name on a value has no part in reading it: two names give one subquery or one error, or each
is named in the same fault. -/
theorem Subquery.ofAnyJson_agree (wireName wireName' : String) (v : Json) :
    (∃ query, ofAnyJson wireName v = .ok query ∧ ofAnyJson wireName' v = .ok query) ∨
      (∃ e, ofAnyJson wireName v = .error e ∧ ofAnyJson wireName' v = .error e) ∨
      ∃ fault, ofAnyJson wireName v = .error (.invalidValue wireName fault) ∧
        ofAnyJson wireName' v = .error (.invalidValue wireName' fault) := by
  have same : ∀ {x : Except CriteriaError Subquery},
      (∃ query, x = .ok query ∧ x = .ok query) ∨ ∃ e, x = .error e ∧ x = .error e := by
    rintro (e | query)
    · exact .inr ⟨e, rfl, rfl⟩
    · exact .inl ⟨query, rfl, rfl⟩
  cases v with
  | object members =>
    rw [ofAnyJson, ofAnyJson, ofMembers, ofMembers]
    cases SubqueryMember.read .entity members with
    | error e => exact .inr (.inl ⟨e, rfl, rfl⟩)
    | ok entity =>
      cases SubqueryMember.read .field members with
      | error e => exact .inr (.inl ⟨e, rfl, rfl⟩)
      | ok field =>
        rw [Criteria.ofFiltersMember_eq, Criteria.ofFiltersMember_eq]
        split
        · exact .inl ⟨_, rfl, rfl⟩
        · exact .inl ⟨_, rfl, rfl⟩
        · rename_i inner found
          cases Criteria.ofMembers [] inner with
          | error e => exact .inr (.inl ⟨e, rfl, rfl⟩)
          | ok criteria => exact .inl ⟨_, rfl, rfl⟩
        · exact .inr (.inr ⟨_, rfl, rfl⟩)
  | _ => exact .inr (.inr ⟨_, rfl, rfl⟩)

/-- A member that stands for a subquery reads as one criterion, within the bound. -/
theorem BoundedCriteria.ofJson_subqueryMember {wireName field : String}
    (named : CriterionName.ofWireName wireName = .ok ⟨field, .inSubquery⟩) (v : Json)
    (maxDepth : Nat) :
    ofJson (.object [(wireName, v)]) maxDepth =
      match Subquery.ofAnyJson wireName v with
      | .error e => .error e
      | .ok query =>
        if maxDepth < query.depth then .error (.tooDeep query.depth maxDepth)
        else .ok { criteria := [⟨field, .inSubquery query⟩], maxDepth } := by
  have written : CriterionName.wireName ⟨field, .inSubquery⟩ = wireName :=
    (CriterionName.ofWireName_eq_ok_iff.mp named).1.symm
  have asPredicate : Predicate.ofJson .inSubquery wireName v =
      (Subquery.ofAnyJson wireName v).map .inSubquery := by
    cases v with
    | object members => rw [Predicate.ofJson, if_pos rfl, Subquery.ofAnyJson]
    | _ => rfl
  have member : Criteria.ofMembers [] [(wireName, v)] =
      (Subquery.ofAnyJson wireName v).map fun query => [⟨field, .inSubquery query⟩] := by
    rw [Criteria.ofMembers, named]
    change (Predicate.ofJson .inSubquery (CriterionName.wireName ⟨field, .inSubquery⟩) v).bind _ = _
    rw [written, asPredicate]
    cases Subquery.ofAnyJson wireName v <;> rfl
  rw [ofJson, member]
  cases Subquery.ofAnyJson wireName v with
  | error e => rfl
  | ok query =>
    have deepest : Criteria.depth [⟨field, .inSubquery query⟩] = query.depth := Nat.max_zero _
    change (if maxDepth < Criteria.depth [⟨field, .inSubquery query⟩] then _ else _) = _
    rw [deepest]
    rfl

namespace CriterionForm

variable {field text : String} {v : Json}

/-- A typed subquery becomes one criterion, within the bound. -/
theorem submit_subquery (present : field ≠ "") (parsed : Json.parse text = .ok v)
    (b : BoundedCriteria) :
    (subquery field text).submit b =
      match Subquery.ofAnyJson "subquery" v with
      | .error e => .error e
      | .ok query =>
        if b.maxDepth < query.depth then .error (.tooDeep query.depth b.maxDepth)
        else .ok (true, b.put field (.inSubquery query)) := by
  rw [submit, criterion?_subquery present, readSubquery_of_parse parsed, Subquery.ofJson]
  cases Subquery.ofAnyJson "subquery" v with
  | error e => rfl
  | ok query =>
    change ((if b.maxDepth < query.depth then _ else _ : Except CriteriaError Subquery).map _).bind _
      = ite (b.maxDepth < query.depth) _ _
    by_cases deep : b.maxDepth < query.depth
    · rw [if_pos deep, if_pos deep]
      rfl
    · have shallow : (Predicate.inSubquery query).depth ≤ b.maxDepth := Nat.not_lt.mp deep
      rw [if_neg deep, if_neg deep]
      change (b.set field (.inSubquery query)).map (fun after => (true, after)) = _
      rw [BoundedCriteria.set_of_depth_le shallow]
      rfl

/-- A typed subquery is accepted exactly if the one member that stands for it is read within the
same bound.  Then what is read is one criterion, it takes the place of all that has its wire name,
and nothing else changes.  A missing member and a nesting that is too deep are told alike. -/
theorem submit_subquery_agrees (b : BoundedCriteria) (present : field ≠ "")
    (parsed : Json.parse text = .ok v) :
    let wireName := field ++ "_inSubquery"
    let typed := (subquery field text).submit b
    let onWire := BoundedCriteria.ofJson (.object [(wireName, v)]) b.maxDepth
    ((∃ after, typed = .ok (true, after)) ↔ ∃ read, onWire = .ok read) ∧
    (∀ after read, typed = .ok (true, after) → onWire = .ok read →
      ∃ c, read.criteria = [c] ∧ c.name = ⟨field, .inSubquery⟩ ∧ c.wireName = wireName ∧
        after = { b with criteria := b.criteria.set c } ∧
        after.criteria.filter (·.wireName = wireName) = read.criteria ∧
        after.criteria.filter (·.wireName ≠ wireName) =
          b.criteria.filter (·.wireName ≠ wireName)) ∧
    (∀ depth max, typed = .error (.tooDeep depth max) ↔ onWire = .error (.tooDeep depth max)) ∧
    ∀ member, typed = .error (.missingMember member) ↔ onWire = .error (.missingMember member) := by
  intro wireName typed onWire
  have named : CriterionName.ofWireName wireName = .ok ⟨field, .inSubquery⟩ :=
    CriterionName.ofWireName_eq_ok_iff.mpr ⟨rfl, present, nofun⟩
  have typed_eq : typed = _ := submit_subquery present parsed b
  have onWire_eq : onWire = _ := BoundedCriteria.ofJson_subqueryMember named v b.maxDepth
  rcases Subquery.ofAnyJson_agree "subquery" wireName v with
    ⟨query, read, read'⟩ | ⟨e, read, read'⟩ | ⟨fault, read, read'⟩ <;>
    simp only [read, read'] at typed_eq onWire_eq
  · by_cases deep : b.maxDepth < query.depth
    · rw [if_pos deep] at typed_eq onWire_eq
      rw [typed_eq, onWire_eq]
      simp
    · rw [if_neg deep] at typed_eq onWire_eq
      rw [typed_eq, onWire_eq]
      refine ⟨iff_of_true ⟨_, rfl⟩ ⟨_, rfl⟩, ?_, ?_, ?_⟩
      · rintro after read ⟨rfl⟩ ⟨rfl⟩
        have alone := Criteria.filter_set_eq ⟨field, .inSubquery query⟩ b.criteria
        have others := Criteria.filter_set_ne ⟨field, .inSubquery query⟩ b.criteria
        exact ⟨_, rfl, rfl, rfl, rfl, alone, others⟩
      · exact fun depth max => iff_of_false nofun nofun
      · exact fun member => iff_of_false nofun nofun
  · rw [typed_eq, onWire_eq]
    simp
  · rw [typed_eq, onWire_eq]
    simp

/-- A typed subquery on a field that ends in a suffix is accepted within a bound of one, and not
within a bound of zero. -/
theorem submit_subquery_agrees_of_suffixed_field :
    let text := "\x7b\"entity\":\"Order\",\"field\":\"id\"\x7d"
    let form := subquery "id_like" text
    (∃ after, form.submit (.empty 1) = .ok (true, after)) ∧
      form.submit (.empty 0) = .error (.tooDeep 1 0) := by
  intro text form
  have written : text.toList = Json.compactChars
      (.object (Members.strings [("entity", "Order"), ("field", "id")])) ++ [] := by decide +kernel
  have parsed : Json.parse text =
      .ok (.object [("entity", .string "Order"), ("field", .string "id")]) := by
    rw [Json.parse, Json.read_strings written nofun]
    rfl
  have within_one := submit_subquery_agrees (.empty 1) (by decide : "id_like" ≠ "") parsed
  have within_zero := submit_subquery_agrees (.empty 0) (by decide : "id_like" ≠ "") parsed
  exact ⟨within_one.1.mpr ⟨_, rfl⟩, (within_zero.2.2.1 1 0).mpr rfl⟩

end CriterionForm

end EntityQuery
