import EntityQuery.Proofs.Query.Refused
import EntityQuery.Proofs.Session.Run

/-!
# Presets, whole or in part

A preset that is accepted makes the same query of every query, apart from what
presets leave alone.  One that is refused should leave the query as it was, but
it has started over by then: only its subquery is missing.  This takes a bound
that allows no subqueries, and a query that is not where presets start from.

## Main Definitions

* `Preset.target`: what a preset makes of a query when it is accepted.
* `Query.SameFrame`: two queries agree in what presets leave alone.

## Main Statements

* `Preset.apply_eq_error_iff`: which presets are refused, and what they leave.
* `Preset.undivided_iff`: where presets are applied as a whole or not at all.
* `Preset.divided_without_subqueries`: a query that is left half replaced.
* `Preset.apply_forgets`: nothing else of a query shows after a preset.
-/

namespace EntityQuery

namespace Preset

variable {p : Preset} {q : Query}

/-- What a preset makes of a query when it is accepted: all of it is the preset's, but for the sort
string, the export flag, the handle and the bound on nesting. -/
def target (p : Preset) (q : Query) : Query :=
  let fresh := (p.apply .initial).2
  { fresh with
    filters := { fresh.filters with maxDepth := q.filters.maxDepth }
    sortString := q.sortString
    exports := q.exports
    lastExport := q.lastExport }

/-- An accepted preset is applied as a whole. -/
theorem apply_snd_of_accepted (accepted : (p.apply q).1 = .ok ()) : (p.apply q).2 = p.target q := by
  cases p with
  | nameLike | salaryRange | distinctDepartments => rfl
  | salesSubquery =>
    rw [apply_salesSubquery] at accepted ⊢
    split
    · rename_i none
      rw [if_pos none] at accepted
      cases accepted
    · rfl

/-- Only the last preset is refused, where there may be no subqueries, and by then the query has
started over. -/
theorem apply_eq_error_iff {e : QueryError} {after : Query} :
    p.apply q = (.error e, after) ↔ p = .salesSubquery ∧ q.filters.maxDepth = 0 ∧
      e = .criteria (.tooDeep 1 0) ∧ after = salesStart q := by
  cases p with
  | nameLike | salaryRange | distinctDepartments => simp [apply]
  | salesSubquery =>
    rw [apply_salesSubquery]
    split <;> simp_all [eq_comm]

/-- A query stays as it was under every preset that is refused exactly if subqueries are allowed or
the query already is as the last preset starts from. -/
theorem keeps_refused_iff :
    (∀ p e, (apply p q).1 = .error e → (apply p q).2 = q) ↔
      q.filters.maxDepth ≠ 0 ∨ salesStart q = q := by
  constructor
  · intro keeps
    by_cases none : q.filters.maxDepth = 0
    · have refused : salesSubquery.apply q = _ :=
        apply_eq_error_iff.mpr ⟨rfl, none, rfl, rfl⟩
      have kept := keeps .salesSubquery _ (congrArg Prod.fst refused)
      rw [refused] at kept
      exact .inr kept
    · exact .inl none
  · rintro condition p e refused
    obtain ⟨-, none, -, after⟩ := apply_eq_error_iff.mp (Prod.ext refused rfl)
    exact after.trans (condition.resolve_left (not_not.mpr none))

/-- Presets are applied as a whole or not at all, to a query and to the session that has it, exactly
if the bound of the query allows subqueries or the query already is as the last preset starts from.
One that is accepted is applied as a whole in any case. -/
theorem undivided_iff (s : Session) (q : Query) :
    let session := { s with query := q }
    let condition := q.filters.maxDepth ≠ 0 ∨ salesStart q = q
    ((∀ p e, (apply p q).1 = .error e → (apply p q).2 = q) ↔ condition) ∧
      ((∀ p e, (session.applyPreset p).answer = .error e →
        (session.applyPreset p).session = session) ↔ condition) ∧
      ∀ p, (apply p q).1 = .ok () → (apply p q).2 = p.target q := by
  intro session condition
  refine ⟨keeps_refused_iff, ?_, fun p => apply_snd_of_accepted⟩
  refine Iff.trans ?_ keeps_refused_iff
  refine forall₂_congr fun p e => ?_
  rw [Session.applyPreset_answer, Session.applyPreset_session]
  refine imp_congr_right fun _ => ⟨congrArg Session.query, fun kept => ?_⟩
  change { s with query := (apply p q).2 } = { s with query := q }
  rw [kept]

/-- Where no subqueries are allowed, the last preset is refused when it has taken the query from page
seven back to the first and replaced its projection. -/
theorem divided_without_subqueries :
    let q : Query := { filters := .empty 0, page := 7 }
    let session : Session := { (Session.start "s" {}).session with query := q }
    (apply .salesSubquery q).1 = .error (.criteria (.tooDeep 1 0)) ∧
      (apply .salesSubquery q).2.page = 0 ∧
      (apply .salesSubquery q).2.fields = ["id", "name", "department.name"] ∧
      (session.applyPreset .salesSubquery).answer = .error (.criteria (.tooDeep 1 0)) ∧
      (session.applyPreset .salesSubquery).session.query.page = 0 :=
  ⟨rfl, rfl, rfl, rfl, rfl⟩

end Preset

/-! ## Two queries -/

/-- Two queries agree in what presets leave alone: the sort string, the export flag, the handle and
the bound on nesting. -/
structure Query.SameFrame (q q' : Query) : Prop where
  sortString : q.sortString = q'.sortString
  exports : q.exports = q'.exports
  lastExport : q.lastExport = q'.lastExport
  maxDepth : q.filters.maxDepth = q'.filters.maxDepth

namespace Preset

variable {q q' : Query}

/-- What a preset makes of a query has the frame of that query. -/
theorem sameFrame_target (p : Preset) (q : Query) : (p.target q).SameFrame q :=
  ⟨rfl, rfl, rfl, rfl⟩

/-- It has nothing else of it. -/
theorem target_eq_of_sameFrame (same : q.SameFrame q') (p : Preset) : p.target q = p.target q' := by
  unfold target
  rw [same.sortString, same.exports, same.lastExport, same.maxDepth]

/-- Where subqueries are allowed, a preset is accepted and forgets the query that was there before:
it makes the same query of any two that agree in what presets leave alone, and leaves that alone. -/
theorem apply_forgets (p : Preset) (same : q.SameFrame q') (allows : 1 ≤ q.filters.maxDepth) :
    (p.apply q).1 = .ok () ∧ (p.apply q').1 = .ok () ∧ (p.apply q).2 = (p.apply q').2 ∧
      (p.apply q).2.SameFrame q ∧ (p.apply q').2.SameFrame q' := by
  have allows' : 1 ≤ q'.filters.maxDepth := same.maxDepth ▸ allows
  have accepted := p.apply_fst (Nat.one_le_iff_ne_zero.mp allows)
  have accepted' := p.apply_fst (Nat.one_le_iff_ne_zero.mp allows')
  rw [apply_snd_of_accepted accepted, apply_snd_of_accepted accepted']
  exact ⟨accepted, accepted', target_eq_of_sameFrame same p, p.sameFrame_target q,
    p.sameFrame_target q'⟩

/-- Two queries on two entities, one of them with criteria, sorts and a page far on, become one. -/
theorem apply_forgets_of_two_entities :
    let old : Query :=
      { entity := "Department", fields := ["code", "city"]
        filters := (BoundedCriteria.empty 1).put "city" (.like (.text "B"))
        sorts := SortOrder.empty.appendField "code"
        sortString := ⟨"id,desc"⟩, page := 7, size := 50, distinct := true
        lastExport := some ⟨"all.csv"⟩ }
    let other : Query :=
      { filters := .empty 1, sortString := ⟨"id,desc"⟩, lastExport := some ⟨"all.csv"⟩ }
    old.SameFrame other ∧ 1 ≤ old.filters.maxDepth ∧
      (apply .salesSubquery old).2 = (apply .salesSubquery other).2 ∧
      (apply .salesSubquery old).2.sortString = ⟨"id,desc"⟩ := by
  intro old other
  have same : old.SameFrame other := ⟨rfl, rfl, rfl, rfl⟩
  have allows : 1 ≤ old.filters.maxDepth := Nat.le_refl 1
  obtain ⟨-, -, forgotten, frame, -⟩ := apply_forgets .salesSubquery same allows
  exact ⟨same, allows, forgotten, frame.sortString⟩

end Preset

end EntityQuery
