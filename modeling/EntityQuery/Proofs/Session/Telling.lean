import EntityQuery.Proofs.Session.Landing
import EntityQuery.Proofs.Session.Observation

/-!
# What the log tells of an answer

When an answer lands, the log tells what the user sees.  It has one entry for the
outcome, and before that one more if the answer is not the one that is awaited.

## Main Definitions

* `Session.Records`: the handle that an answer leaves.
* `Session.Tells`: an entry that agrees with what is seen and left of an answer.

## Main Statements

* `Session.records_iff_announced`: the handle that is left is the one announced.
* `Session.tells_outcomeEntry`: the entry for an outcome agrees with it.
* `Session.land_told`: the log of an answer, as a whole.

## Design Notes

The entry is chosen by what the user sees, after the outcome has been taken
apart.  That it tells the outcome all the same rests on the five things that
landing can come to: no two of them look alike.
-/

namespace EntityQuery

/-- Everything is written where no entry is too slight. -/
theorem Log.kept_trace (entries : List Entry) : kept .trace entries = entries := by
  refine List.filter_eq_self.mpr fun e _ => ?_
  exact decide_eq_true (Nat.zero_le _)

namespace Session

/-- Landing leaves this handle, whatever the handle was before. -/
def Records (s : Session) (a : Arrival) (h : ExportHandle) : Prop :=
  ∀ earlier : Option ExportHandle,
    ({ s with query := { s.query with lastExport := earlier } }.land a).session.query.lastExport =
      some h

variable {s : Session} {a : Arrival} {h : ExportHandle}

/-- Landing leaves the handle that it announces, and none if it announces none. -/
theorem records_iff_announced : s.Records a h ↔ (s.land a).answer = some (.exportReady h) := by
  have leaves : s.Records a h ↔ (Operation.land a).handle? = some h := by
    have left (earlier : Option ExportHandle) : ({ s with query := { s.query with
        lastExport := earlier } }.land a).session.query.lastExport =
          (Operation.land a).handle?.or earlier :=
      Operation.lastExport_apply (.land a) { s with query := { s.query with lastExport := earlier } }
    constructor
    · intro records
      have alone := records none
      rwa [left, Option.or_none] at alone
    · intro handle earlier
      rw [left, handle, Option.some_or]
  obtain ⟨ticket, kind, outcome⟩ := a
  have answer : (s.land ⟨ticket, kind, outcome⟩).answer =
    (s.query.land kind outcome).1.notice := rfl
  rw [leaves, answer]
  have lands := s.query.lands_land kind outcome
  generalize s.query.land kind outcome = landed at lands
  obtain ⟨reaction, after⟩ := landed
  cases lands with
  | failure fails =>
    cases fails with
    | unanswered kind => cases kind <;> simp [Operation.handle?]
    | noPage => simp [Operation.handle?]
  | file names =>
    rw [Operation.handle?, ExportAnswer.handle?_eq_some_iff_namesFile.mpr names]
    simp
  | noFile silent =>
    have none := mt ExportAnswer.handle?_eq_some_iff_namesFile.mp (silent h)
    simp [Operation.handle?, none]
  | rows | noRows => simp [Operation.handle?]

/-- An entry tells what is seen of an answer and what it leaves: a failure, a handle, an export
without one, or a page. -/
structure Tells (s : Session) (a : Arrival) (told : Log.Entry) : Prop where
  failed : told.event = .fetchFailed ↔
    (∃ message, (s.land a).session.display = .error message) ∧
      ∃ message, (s.land a).answer = some (.alert message)
  cause : told.event = .fetchFailed → ∃ e, a.kind.Fails a.outcome e ∧
    (s.land a).session.display = .error e.message ∧
    (s.land a).answer = some (.alert e.message) ∧
    told.fields.lookup "error" = some e.message ∧ told.fields.lookup "code" = some e.code
  ready : told.event = .exportReady ↔ ∃ h, s.Records a h
  file : ∀ h, s.Records a h → told.fields.lookup "file" = some h.path
  diagnostic : told.event = .exportDiagnostic ↔
    ∃ body, (s.land a).answer = some (.exportDiagnostic body)
  body : ∀ body, (s.land a).answer = some (.exportDiagnostic body) →
    told.fields.lookup "body" = some body
  complete : told.event = .fetchComplete ↔ told.event ≠ .fetchFailed ∧
    told.event ≠ .exportReady ∧ told.event ≠ .exportDiagnostic
  rows : told.event = .fetchComplete →
    (∀ table, (s.land a).session.display = .table table →
      told.fields.lookup "rows" = some (toString table.rows.length)) ∧
    ((∀ table, (s.land a).session.display ≠ .table table) → told.fields.lookup "rows" = some "0")

/-- The code that is logged is that of the error. -/
theorem failureCode_of_fails {kind : RequestKind} {outcome : Outcome} {e : ServiceError}
    (fails : kind.Fails outcome e) : failureCode outcome = e.code := by
  cases fails <;> rfl

/-- The entry for an outcome tells what it comes to. -/
theorem tells_outcomeEntry (s : Session) (a : Arrival) :
    s.Tells a (outcomeEntry a.ticket a.outcome (s.query.land a.kind a.outcome).1) := by
  obtain ⟨ticket, kind, outcome⟩ := a
  have display : (s.land ⟨ticket, kind, outcome⟩).session.display =
    (s.query.land kind outcome).1.display := rfl
  have answer : (s.land ⟨ticket, kind, outcome⟩).answer =
    (s.query.land kind outcome).1.notice := rfl
  have lands := s.query.lands_land kind outcome
  generalize s.query.land kind outcome = landed at display answer lands
  obtain ⟨reaction, after⟩ := landed
  -- In each of the five cases the entry, the display and the notice are known, and all parts of what
  -- it tells are computed from them.
  cases lands with
  | failure fails =>
    have code := failureCode_of_fails fails
    constructor <;>
      simp [outcomeEntry, records_iff_announced, display, answer, code, List.lookup_cons]
    exact ⟨_, fails, rfl, rfl⟩
  | file names | noFile silent =>
    constructor <;> simp [outcomeEntry, records_iff_announced, display, answer, List.lookup_cons]
  | rows read filled | noRows read blank =>
    have zero : Nat.repr 0 = "0" := rfl
    constructor <;>
      simp [outcomeEntry, records_iff_announced, display, answer, Display.rowCount, List.lookup_cons,
        zero]

/-- The log of an answer, where everything is written.  First it tells, exactly if that is so, that
another answer is awaited, or none.  Then it has one entry that tells what is seen of the answer and
what it leaves: the failure that is displayed and announced, with the code of the error that it came
from; the handle that is left, or the body of an export that left none; or else the number of rows
that are displayed.  All of it is about the ticket of the answer. -/
theorem land_told (s : Session) (a : Arrival) :
    ∃ stale told, Log.kept .trace (s.land a).events = stale ++ [told] ∧
      (s.inFlight = some a.ticket → stale = []) ∧
      (s.inFlight ≠ some a.ticket → ∃ e, stale = [e] ∧ e.event = .staleResponseApplied) ∧
      (∀ e ∈ stale ++ [told], e.fields.lookup "ticket" = some (toString a.ticket)) ∧
      s.Tells a told ∧
      (∀ body, a.outcome = .ok body → told.event = .fetchFailed →
        told.fields.lookup "code" = some "DYNQ_TRANSPORT_MALFORMED") := by
  have tells := s.tells_outcomeEntry a
  set told := outcomeEntry a.ticket a.outcome (s.query.land a.kind a.outcome).1 with entry
  have events : Log.kept .trace (s.land a).events = staleEntries a.ticket s.inFlight ++ [told] :=
    Log.kept_trace _
  refine ⟨_, told, events, fun awaited => ?_, fun other => ?_, fun e mem => ?_, tells,
    fun body answered failed => ?_⟩
  · rw [staleEntries, if_pos awaited]
  · rw [staleEntries, if_neg other]
    exact ⟨_, rfl, rfl⟩
  · rcases List.mem_append.mp mem with mem | mem
    · unfold staleEntries at mem
      split at mem
      · cases mem
      · cases List.mem_singleton.mp mem
        rfl
    · rw [List.mem_singleton.mp mem, entry, outcomeEntry]
      split <;> rfl
  · obtain ⟨e, fails, -, -, -, code⟩ := tells.cause failed
    have logged := failureCode_of_fails fails
    rw [answered] at logged
    rw [code, ← logged]
    rfl

end Session

end EntityQuery
