import EntityQuery.Proofs.Query.Limits
import EntityQuery.Proofs.Session.ExportHandle
import EntityQuery.Proofs.Settings

/-!
# Requests within the limits

Whatever a session has been through, its requests respect the settings that it
was started with, as long as nobody replaces its criteria as a whole.

## Main Definitions

* `Session.Reached`: the sessions that some settings lead to.

## Main Statements

* `Operation.within_apply`: an operation stays within the limits of a query.
* `Session.Reached.within`: so does every session that is reached.
* `Session.Reached.request_within`: what that means for the requests it issues.

## Design Notes

A query is edited with the catalog of its session or with any other: the limits
have nothing to do with the catalog.
-/

namespace EntityQuery

namespace Operation

variable {op : Operation} {s : Session} {limit : Nat}

theorem settings_apply (op : Operation) (s : Session) : (op.apply s).settings = s.settings := by
  cases issued : op.issued? s with
  | some r =>
    obtain ⟨query, -, -, after⟩ := apply_of_issued issued
    rw [after]
  | none =>
    by_cases lands : ∃ a, op = .land a
    · obtain ⟨a, rfl⟩ := lands
      rfl
    · obtain ⟨query, after⟩ := apply_of_quiet issued (not_exists.mp lands)
      rw [after]

/-- Only replacing the criteria as a whole can leave the limits. -/
theorem within_apply (within : s.query.Within limit) (plain : ∀ b, op ≠ .filters b) :
    (op.apply s).query.Within limit := by
  cases op with
  | edit e => exact within.edit s.catalog e
  | filters b => exact absurd rfl (plain b)
  | preset p =>
    rw [apply, Session.applyPreset_session]
    exact within.preset p
  | exports size =>
    by_cases zero : size.getD s.settings.exportPageSize = 0
    · rw [apply, Session.issueExport_of_eq_zero zero]
      exact within
    · rw [apply, Session.issueExport_of_ne_zero zero]
      refine ⟨?_, within.filters⟩
      change 1 ≤ size.getD s.settings.exportPageSize
      grind
  | land a =>
    change (s.query.land a.kind a.outcome).2.Within limit
    rw [Query.land_snd]
    split <;> exact ⟨within.positive, within.filters⟩
  | sorts | changeEntity | addSort | browse => exact ⟨within.positive, within.filters⟩

end Operation

namespace Session

/-- The sessions that operations and edits lead to, from a new one with some settings. -/
inductive Reached (settings : Settings) : Session → Prop
  | start (id : String) : Reached settings (start id settings).session
  /-- The criteria are not replaced as a whole. -/
  | operation {s : Session} (reached : Reached settings s) (op : Operation)
      (plain : ∀ b, op ≠ .filters b) : Reached settings (op.apply s)
  /-- An edit with a catalog that need not be that of the session. -/
  | edit {s : Session} (reached : Reached settings s) (catalog : Catalog) (e : Edit) :
      Reached settings { s with query := (e.apply catalog s.query).2 }

namespace Reached

variable {settings : Settings} {s : Session}

/-- What is reached goes on being reached over a run. -/
theorem run (reached : Reached settings s) (ops : List Operation)
    (plain : ∀ op ∈ ops, ∀ b, op ≠ .filters b) : Reached settings (s.run ops) := by
  induction ops generalizing s with
  | nil => exact reached
  | cons op ops ih =>
    rw [List.forall_mem_cons] at plain
    exact ih (reached.operation op plain.1) plain.2

/-- A session stays within the limits of its settings. -/
theorem within (checked : settings.check = .ok ()) (reached : Reached settings s) :
    s.query.Within settings.maxSubqueryDepth := by
  induction reached with
  | start id =>
    obtain ⟨-, size, -⟩ := Settings.check_eq_ok_iff.mp checked
    refine ⟨?_, .empty _⟩
    change 1 ≤ settings.pageSize
    grind
  | operation _ op plain ih => exact Operation.within_apply ih plain
  | edit _ catalog e ih => exact ih.edit catalog e

/-- A session of settings that pass may have subqueries. -/
theorem maxDepth_ne_zero (reached : Reached settings s) (checked : settings.check = .ok ()) :
    s.query.filters.maxDepth ≠ 0 := by
  obtain ⟨-, -, -, allows, -⟩ := Settings.check_eq_ok_iff.mp checked
  rw [(reached.within checked).filters.bound]
  exact allows

/-- Every request that a session issues has a positive page size, has criteria that keep to the
bound of the settings and carry it, and is told apart as a browse or as an export from the first
page on.  What is sent is that request. -/
theorem request_within (checked : settings.check = .ok ()) (reached : Reached settings s)
    {op : Operation} {r : IssuedRequest} (issued : op.issued? s = some r) :
    1 ≤ r.request.size ∧
    r.request.filters.depth ≤ settings.maxSubqueryDepth ∧
    r.request.filters.maxDepth = settings.maxSubqueryDepth ∧
    (op = .browse → r.request.exports = false) ∧
    (∀ size, op = .exports size → r.request.exports = true ∧ r.request.page = 0) ∧
    ∀ {m : Type → Type} [Monad m] (service : Service m), send service r = (do
      let outcome ← service.answer r.request
      pure (r.arrival outcome)) := by
  obtain ⟨query, asked, rfl, after⟩ := Operation.apply_of_issued issued
  have plain : ∀ b, op ≠ .filters b := by
    rintro b rfl
    cases issued
  have within : query.Within settings.maxSubqueryDepth := by
    have within' := Operation.within_apply (reached.within checked) plain
    rw [after] at within'
    exact within'
  refine ⟨within.positive, within.filters.shallow, within.filters.bound, ?_, ?_,
    fun service => rfl⟩
  · rintro rfl
    rcases asked with ⟨-, rfl⟩ | ⟨size, other, -⟩
    · rfl
    · cases other
  · rintro size rfl
    rcases asked with ⟨other, -⟩ | ⟨size', -, rfl⟩
    · cases other
    · exact ⟨rfl, rfl⟩

/-- A preset with a subquery, a page further on and of another size, and then an export. -/
theorem request_within_of_preset :
    let s := (Session.start "s" {}).session.run
      [.preset .salesSubquery, .edit .nextPage, .edit (.size 50)]
    ({} : Settings).check = .ok () ∧ Reached {} s ∧
      ∃ r, Operation.issued? (.exports none) s = some r ∧ 1 ≤ r.request.size ∧
        r.request.filters.depth ≤ 8 ∧ r.request.filters.maxDepth = 8 ∧
          r.request.exports = true ∧ r.request.page = 0 := by
  intro s
  have reached : Reached {} s := by
    refine (Reached.start "s").run _ ?_
    simp only [List.forall_mem_cons]
    exact ⟨nofun, nofun, nofun, nofun⟩
  have issues : ∃ r, Operation.issued? (.exports none) s = some r := ⟨_, rfl⟩
  obtain ⟨r, issued⟩ := issues
  obtain ⟨positive, shallow, bound, -, exports, -⟩ :=
    request_within Settings.check_default reached issued
  exact ⟨Settings.check_default, reached, r, issued, positive, shallow, bound, exports none rfl⟩

end Reached

end Session

end EntityQuery
