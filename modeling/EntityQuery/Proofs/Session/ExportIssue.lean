import EntityQuery.Proofs.Session.Limits

/-!
# Exports, issued as a whole or not at all

The size of an export is looked at before anything is touched.  If it is zero, the
session stays as it was and its service hears nothing of it.  Any other export is
issued with the query as it stands, apart from the three members that an export
sets.

## Main Statements

* `Session.run_of_refused`: a refused export can be left out of a run.
* `Session.issueExport_undivided`: what an export that is issued or refused does.
-/

namespace EntityQuery

namespace Session

variable {m : Type → Type} [Monad m] {s : Session} {size : Option UInt32}

theorem settings_run (s : Session) (ops : List Operation) : (s.run ops).settings = s.settings := by
  induction ops generalizing s with
  | nil => rfl
  | cons op ops ih => exact (ih (op.apply s)).trans (op.settings_apply s)

/-- An export of no rows makes no request and logs nothing, whatever the service. -/
theorem requestExport_of_eq_zero (service : Service m) (log : List Log.Entry → m Unit)
    (zero : size.getD s.settings.exportPageSize = 0) :
    s.requestExport service log size = pure (.error (.query .zeroPageSize), s) := by
  unfold requestExport
  rw [issueExport_of_eq_zero zero]

/-- A run goes on after a refused export as if it had not been asked for. -/
theorem run_of_refused (zero : size.getD s.settings.exportPageSize = 0)
    (ops more : List Operation) : s.run (ops ++ .exports size :: more) = s.run (ops ++ more) := by
  have zero' : size.getD (s.run ops).settings.exportPageSize = 0 := by
    rwa [settings_run]
  have kept : (Operation.exports size).apply (s.run ops) = s.run ops := by
    rw [Operation.apply, issueExport_of_eq_zero zero']
  rw [run_append, run_append, run, kept]

/-- An export is refused exactly if its size is zero, its own or else that of the settings.  Then the
session is as it was, in a run as well, nothing is logged, and no request is made.  Any other export
is issued: its request is that of the query so far, with the first page, the size and the export flag
set, and these members, the display and the slot are all that is different afterwards. -/
theorem issueExport_undivided (size : Option UInt32) (s : Session) :
    let n := size.getD s.settings.exportPageSize
    let step := s.issueExport size
    ((∃ e, step.answer = .error e) ↔ n = 0) ∧
      (n = 0 → step.session = s ∧ step.events = [] ∧
        (∀ ops more, s.run (ops ++ .exports size :: more) = s.run (ops ++ more)) ∧
        ∀ {m : Type → Type} [Monad m] (service : Service m) (log : List Log.Entry → m Unit),
          s.requestExport service log size = pure (.error (.query .zeroPageSize), s)) ∧
      (n ≠ 0 → ∃ r, step.answer = .ok r ∧ r.kind = .exports ∧ r.ticket = s.nextTicket ∧
        step.session.query = { s.query with page := 0, size := n, exports := true } ∧
        r.request = step.session.query.request ∧
        step.session = { s with
          query := step.session.query
          display := .loading
          inFlight := some r.ticket
          nextTicket := r.ticket + 1 }) := by
  intro n step
  by_cases zero : n = 0
  · have refused : step = { answer := .error .zeroPageSize, session := s } :=
      issueExport_of_eq_zero zero
    rw [refused]
    refine ⟨⟨fun _ => zero, fun _ => ⟨_, rfl⟩⟩, fun _ => ⟨rfl, rfl, run_of_refused zero, ?_⟩,
      fun positive => absurd zero positive⟩
    intro m _ service log
    exact requestExport_of_eq_zero service log zero
  · have issued : step = _ := issueExport_of_ne_zero zero
    rw [issued]
    refine ⟨⟨?_, fun none => absurd none zero⟩, fun none => absurd none zero, fun _ => ?_⟩
    · rintro ⟨e, refused⟩
      cases refused
    · exact ⟨_, rfl, rfl, rfl, rfl, rfl, rfl⟩

end Session

end EntityQuery
