import EntityQuery.Proofs.Criteria.Reading
import EntityQuery.Proofs.Criteria.Writing

/-!
# How criteria come about

Criteria start empty or are read, and are edited from there on.  Whatever the
order of the edits, they stay a finite map from wire names to predicates, at
every level of subqueries.

## Main Definitions

* `CriteriaEdit`: one edit, and what it does.
* `BoundedCriteria.Built`: criteria that come about by reading and editing.

## Main Statements

* `BoundedCriteria.Built.everyLevel_keyed`: sorted by name and unique by wire
  name, at every level.
* `BoundedCriteria.Built.isFiniteMap`: what each edit does to the map.

## Design Notes

Setting a criterion drops all others of its wire name.  Reading does not, since
the names that it meets are canonical and such names differ on the wire.
-/

namespace EntityQuery

/-- One edit of bounded criteria. -/
inductive CriteriaEdit where
  | equals (field : String) (operand : Scalar)
  | like (field : String) (pattern : Scalar)
  | between (field : String) (lower upper : Scalar)
  /-- A range between typed bounds. -/
  | betweenTyped (field lower upper : String)
  | inSubquery (field : String) (query : Subquery)
  | erase (name : CriterionName)
  | eraseWireName (raw : String)
  | clear

namespace CriteriaEdit

/-- The criterion that an edit sets, if it sets one. -/
def criterion? : CriteriaEdit → Option Criterion
  | .equals field operand => some { field, predicate := .equals operand }
  | .like field pattern => some { field, predicate := .like pattern }
  | .between field lower upper => some { field, predicate := .between lower upper }
  | .betweenTyped field lower upper => some { field, predicate := .betweenTyped lower upper }
  | .inSubquery field query => some { field, predicate := .inSubquery query }
  | .erase _ => none
  | .eraseWireName _ => none
  | .clear => none

/-- Makes an edit: what it erased or why it was refused, and the criteria after it. -/
def apply (edit : CriteriaEdit) (b : BoundedCriteria) :
    Except CriteriaError (Option Predicate) × BoundedCriteria :=
  match edit with
  | .equals field operand => (.ok none, b.put field (.equals operand))
  | .like field pattern => (.ok none, b.put field (.like pattern))
  | .between field lower upper => (.ok none, b.put field (.between lower upper))
  | .betweenTyped field lower upper => (.ok none, b.put field (.betweenTyped lower upper))
  | .inSubquery field query =>
    match b.set field (.inSubquery query) with
    | .ok b => (.ok none, b)
    | .error e => (.error e, b)
  | .erase name =>
    let (erased, b) := b.erase name
    (.ok erased, b)
  | .eraseWireName raw =>
    let (erased, b) := b.eraseWireName raw
    (.ok erased, b)
  | .clear => (.ok none, b.clear)

variable {edit : CriteriaEdit} {b : BoundedCriteria}

/-- Only a subquery is refused, for being nested too deep, and then nothing changes. -/
theorem apply_eq_error_iff {e : CriteriaError} {after : BoundedCriteria} :
    edit.apply b = (.error e, after) ↔ ∃ field query, edit = .inSubquery field query ∧
      b.maxDepth < query.depth ∧ e = .tooDeep query.depth b.maxDepth ∧ after = b := by
  cases edit with
  | inSubquery field query =>
    rw [apply]
    rcases Nat.lt_or_ge b.maxDepth (Predicate.inSubquery query).depth with deep | shallow
    · rw [BoundedCriteria.set_of_lt_depth deep]
      simp only [Prod.mk.injEq, Except.error.injEq, inSubquery.injEq]
      constructor
      · rintro ⟨rfl, rfl⟩
        exact ⟨field, query, ⟨rfl, rfl⟩, deep, rfl, rfl⟩
      · rintro ⟨_, _, ⟨rfl, rfl⟩, -, rfl, rfl⟩
        exact ⟨rfl, rfl⟩
    · rw [BoundedCriteria.set_of_depth_le shallow]
      simp only [Prod.mk.injEq, reduceCtorEq, false_and, inSubquery.injEq, false_iff]
      rintro ⟨_, _, ⟨rfl, rfl⟩, deep, -⟩
      exact Nat.not_lt.mpr shallow deep
  | _ => simp [apply]

/-- An edit that sets a criterion, and is not refused, sets it in the list. -/
theorem criteria_of_apply_eq_ok {c : Criterion} {answer : Option Predicate}
    {after : BoundedCriteria} (sets : edit.criterion? = some c)
    (applied : edit.apply b = (.ok answer, after)) : after.criteria = b.criteria.set c := by
  cases edit with
  | inSubquery field query =>
    cases sets
    rw [apply] at applied
    split at applied
    · rename_i accepted
      obtain ⟨-, rfl⟩ := BoundedCriteria.set_eq_ok_iff.mp accepted
      cases applied
      rfl
    · cases applied
  | erase => cases sets
  | eraseWireName => cases sets
  | clear => cases sets
  | _ =>
    cases sets
    cases applied
    rfl

theorem eq_inSubquery_of_criterion? {field : String} {query : Subquery}
    (sets : edit.criterion? = some ⟨field, .inSubquery query⟩) :
    edit = .inSubquery field query := by
  cases edit with
  | inSubquery =>
    cases sets
    rfl
  | _ => cases sets

/-- What an edit does to the list: nothing, or it sets, erases or clears. -/
theorem criteria_apply (edit : CriteriaEdit) (b : BoundedCriteria) :
    (edit.apply b).2.criteria = b.criteria ∨
      (∃ c, edit.criterion? = some c ∧ (edit.apply b).2.criteria = b.criteria.set c) ∨
      (∃ name, (edit.apply b).2.criteria = b.criteria.erase name) ∨
      (edit.apply b).2.criteria = [] := by
  cases edit with
  | inSubquery field query =>
    cases applied : apply (.inSubquery field query) b with
    | mk answer after =>
      cases answer with
      | error e =>
        obtain ⟨_, _, -, -, -, rfl⟩ := apply_eq_error_iff.mp applied
        exact .inl rfl
      | ok erased => exact .inr (.inl ⟨_, rfl, criteria_of_apply_eq_ok rfl applied⟩)
  | erase name => exact .inr (.inr (.inl ⟨name, rfl⟩))
  | eraseWireName raw =>
    cases named : CriterionName.ofWireName raw with
    | error e => exact .inl (by simp [apply, BoundedCriteria.eraseWireName, named])
    | ok name =>
      exact .inr (.inr (.inl ⟨name, by
        simp [apply, BoundedCriteria.eraseWireName, BoundedCriteria.erase, named]⟩))
  | clear => exact .inr (.inr (.inr rfl))
  | _ => exact .inr (.inl ⟨_, rfl, rfl⟩)

/-- Every edit keeps criteria sorted by name and unique by wire name. -/
theorem keyed_apply (keyed : Criteria.Keyed b.criteria) :
    Criteria.Keyed (edit.apply b).2.criteria := by
  rcases criteria_apply edit b with after | ⟨c, -, after⟩ | ⟨name, after⟩ | after
  · exact after ▸ keyed
  · exact after ▸ keyed.set c
  · exact after ▸ keyed.erase name
  · exact after ▸ Criteria.keyed_nil

/-- After an edit, each criterion was there before or is the one that the edit sets. -/
theorem mem_apply {c : Criterion} (mem : c ∈ (edit.apply b).2.criteria) :
    c ∈ b.criteria ∨ edit.criterion? = some c := by
  rcases criteria_apply edit b with after | ⟨set, sets, after⟩ | ⟨name, after⟩ | after
  · exact .inl (after ▸ mem)
  · rw [after, (Criteria.perm_set set b.criteria).mem_iff] at mem
    rcases List.mem_cons.mp mem with rfl | mem
    · exact .inr sets
    · exact .inl (List.mem_filter.mp mem).1
  · rw [after] at mem
    exact .inl (List.mem_filter.mp mem).1
  · rw [after] at mem
    cases mem

/-- A property of the levels of what an edit sets, kept by the edit itself, holds of every level. -/
theorem everyLevel_apply {P : Criteria → Prop} (every : Criteria.EveryLevel P b.criteria)
    (root : P (edit.apply b).2.criteria)
    (operand : ∀ c, edit.criterion? = some c → c.predicate.EveryLevel P) :
    Criteria.EveryLevel P (edit.apply b).2.criteria := by
  refine Criteria.everyLevel_iff.mpr ⟨root, fun c mem => ?_⟩
  rcases mem_apply mem with before | sets
  · exact (Criteria.everyLevel_iff.mp every).2 c before
  · exact operand c sets

end CriteriaEdit

namespace BoundedCriteria

/-- Erasing a name that is not there answers nothing and changes nothing. -/
theorem erase_of_absent {b : BoundedCriteria} {name : CriterionName}
    (absent : ∀ c ∈ b.criteria, c.name ≠ name) : b.erase name = (none, b) := by
  have kept : b.criteria.erase name = b.criteria :=
    List.filter_eq_self.mpr fun c mem => by simpa using absent c mem
  have unknown : b.criteria.predicate? name = none := by
    rw [Criteria.predicate?, Option.map_eq_none_iff, List.find?_eq_none]
    intro c mem
    simpa using absent c mem
  rw [erase, predicate?, kept, unknown]

/-- Criteria that come about by starting empty or reading, and editing from there on. -/
inductive Built : BoundedCriteria → Prop
  | empty (maxDepth : Nat) : Built (empty maxDepth)
  | read {v : Json} {maxDepth : Nat} {b : BoundedCriteria} (h : ofJson v maxDepth = .ok b) :
      Built b
  /-- The criteria of a subquery that was read on its own. -/
  | readSubquery {v : Json} {maxDepth : Nat} {query : Subquery}
      (h : Subquery.ofJson v maxDepth = .ok query) (bound : Nat) : Built ⟨query.filters, bound⟩
  /-- The criteria of a subquery that was set before. -/
  | nested {b : BoundedCriteria} {field : String} {query : Subquery} (built : Built b)
      (mem : ⟨field, .inSubquery query⟩ ∈ b.criteria) (bound : Nat) : Built ⟨query.filters, bound⟩
  | edit {b : BoundedCriteria} (built : Built b) (e : CriteriaEdit)
      (plain : ∀ field query, e ≠ .inSubquery field query) : Built (e.apply b).2
  /-- The criteria of a subquery that is set come about in the same way. -/
  | subquery {b : BoundedCriteria} (built : Built b) (field : String) {query : Subquery}
      {bound : Nat} (inner : Built ⟨query.filters, bound⟩) :
      Built ((CriteriaEdit.inSubquery field query).apply b).2

namespace Built

variable {b : BoundedCriteria}

/-- Criteria are sorted by name and unique by wire name at every level. -/
theorem everyLevel_keyed (built : b.Built) : Criteria.EveryLevel Criteria.Keyed b.criteria := by
  induction built with
  | empty => exact Criteria.everyLevel_nil Criteria.keyed_nil
  | read h =>
    obtain ⟨members, -, read, -, -⟩ := ofJson_eq_ok_iff.mp h
    exact (Criteria.everyLevel_of_ofMembers read).imp fun _ => Criteria.Orderly.keyed
  | readSubquery h => exact (Subquery.everyLevel_of_ofJson h).imp fun _ => Criteria.Orderly.keyed
  | nested _ mem _ ih => exact (Criteria.everyLevel_iff.mp ih).2 _ mem _ rfl
  | edit _ e plain ih =>
    refine CriteriaEdit.everyLevel_apply ih (CriteriaEdit.keyed_apply ih.root) ?_
    rintro ⟨field, predicate⟩ sets query rfl
    exact absurd (CriteriaEdit.eq_inSubquery_of_criterion? sets) (plain field query)
  | subquery _ field _ ih inner =>
    refine CriteriaEdit.everyLevel_apply ih (CriteriaEdit.keyed_apply ih.root) ?_
    rintro _ ⟨rfl⟩
    exact Predicate.everyLevel_inSubquery.mpr inner

/-- Criteria are a finite map from wire names to predicates, at every level.  Setting overwrites one
member of the object, erasing deletes the one that goes by the name, and a refusal changes
nothing. -/
theorem isFiniteMap (built : b.Built) :
    (∀ level, Criteria.HasLevel b.criteria level →
      (level.map (·.wireName)).Nodup ∧ ∃ members, level.toJson = .object members ∧
        Members.Sorted members ∧
          members.Perm (level.map fun c => (c.wireName, c.predicate.toJson))) ∧
    (∀ (edit : CriteriaEdit) (c : Criterion) (answer : Option Predicate) (after : BoundedCriteria),
      edit.criterion? = some c → edit.apply b = (.ok answer, after) →
        after.predicate? c.name = some c.predicate ∧
        ∀ name, after.criteria.toJson.member? name =
          if name = c.wireName then some c.predicate.toJson
          else b.criteria.toJson.member? name) ∧
    (∀ c ∈ b.criteria, (b.erase c.name).1 = some c.predicate ∧
      ∀ name, (b.erase c.name).2.criteria.toJson.member? name =
        if name = c.wireName then none else b.criteria.toJson.member? name) ∧
    (∀ name, (∀ c ∈ b.criteria, c.name ≠ name) → b.erase name = (none, b)) ∧
    (∀ (edit : CriteriaEdit) (e : CriteriaError) (after : BoundedCriteria),
      edit.apply b = (.error e, after) ↔ ∃ field query, edit = .inSubquery field query ∧
        b.maxDepth < query.depth ∧ e = .tooDeep query.depth b.maxDepth ∧ after = b) := by
  have keyed := built.everyLevel_keyed.root
  refine ⟨fun level has => ?_, fun edit c answer after sets applied => ?_, fun c mem => ?_,
    fun name absent => erase_of_absent absent, fun edit e after => CriteriaEdit.apply_eq_error_iff⟩
  · have distinct := (built.everyLevel_keyed level has).distinct
    exact ⟨distinct, _, Criteria.toJson_eq level, Members.sorted_ofList _,
      Criteria.perm_members distinct⟩
  · have list := CriteriaEdit.criteria_of_apply_eq_ok sets applied
    refine ⟨?_, fun name => list ▸ Criteria.member?_toJson_set keyed c name⟩
    rw [predicate?, list, (keyed.set c).predicate?_eq_some_iff]
    exact ⟨c, (Criteria.perm_set c b.criteria).mem_iff.mpr List.mem_cons_self, rfl, rfl⟩
  · exact ⟨keyed.predicate?_eq_some_iff.mpr ⟨c, mem, rfl, rfl⟩,
      fun name => Criteria.member?_toJson_erase keyed mem name⟩

/-- An equality takes the place of the substring match that has its wire name. -/
theorem isFiniteMap_of_one_wireName :
    let b := ((CriteriaEdit.like "name" (.text "John")).apply (.empty)).2
    let after := ((CriteriaEdit.equals "name_like" (.text "x")).apply b).2
    b.Built ∧ after.predicate? ⟨"name_like", .equals⟩ = some (.equals (.text "x")) ∧
      after.criteria.toJson.member? "name_like" = some (.string "x") := by
  have built : Built ((CriteriaEdit.like "name" (.text "John")).apply (.empty)).2 :=
    .edit (.empty _) _ nofun
  obtain ⟨found, members⟩ := built.isFiniteMap.2.1 (.equals "name_like" (.text "x")) _ _ _ rfl rfl
  exact ⟨built, found, (members "name_like").trans (if_pos (CriterionName.wireName_equals _).symm)⟩

end Built

end BoundedCriteria

end EntityQuery
