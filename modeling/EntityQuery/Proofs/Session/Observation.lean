import EntityQuery.Proofs.Session.Action
import EntityQuery.Rehearsal

/-!
# Observation

What is logged never plays a part in what a session does.  Whatever is done to
it, the least severity that is written decides on the log and on nothing else.

## Main Definitions

* `Log.kept`, `Log.text`: the entries that are written, and their lines.
* `Rehearsal.Transparent`: a computation that writes to the log without reading it.
* `Moment`, `Session.history`: what actions yield, with the session and the world
  after each of them.

## Main Statements

* `Action.perform_transparent`: every action is transparent.
* `Session.history_observed`: two histories that differ in the least severity
  differ in the log only, and there by what is below it.

## Design Notes

The log is the text that a machine has written, so entries that are dropped leave
no trace in it.  A new session is named at random, and its name is logged.
-/

namespace EntityQuery

/-! ## The log -/

namespace Log

/-- The entries that are written under a minimum. -/
def kept (minimum : Severity) (entries : List Entry) : List Entry :=
  entries.filter (minimum.reaches ·.severity)

/-- The lines of entries. -/
def text : List Entry → String
  | [] => ""
  | e :: entries => e.line ++ text entries

variable {a b : Severity}

theorem text_append (entries more : List Entry) :
    text (entries ++ more) = text entries ++ text more := by
  induction entries with
  | nil => simp [text]
  | cons e entries ih => simp [text, ih, String.append_assoc]

/-- What is written of more entries comes after what is written so far. -/
theorem text_kept_append (minimum : Severity) (entries more : List Entry) :
    text (kept minimum (entries ++ more)) =
      text (kept minimum entries) ++ text (kept minimum more) := by
  rw [kept, List.filter_append, text_append]
  rfl

/-- What is written under a higher minimum is written under a lower one too. -/
theorem kept_kept (le : a.reaches b) (entries : List Entry) :
    kept b (kept a entries) = kept b entries := by
  have higher : a.rank ≤ b.rank := of_decide_eq_true le
  rw [kept, kept, List.filter_filter]
  refine List.filter_congr fun e _ => ?_
  simp only [Severity.reaches, Bool.and_eq_left_iff_imp, decide_eq_true_eq]
  exact fun reached => Nat.le_trans higher reached

/-- Writing entries one after the other adds the lines of those that are written. -/
theorem foldl_written (minimum : Severity) (entries : List Entry) (before : String) :
    entries.foldl (fun text e => text ++ e.written minimum) before =
      before ++ text (kept minimum entries) := by
  induction entries generalizing before with
  | nil => simp [kept, text]
  | cons e entries ih =>
    rw [List.foldl_cons, ih]
    cases reached : minimum.reaches e.severity with
    | true => simp [kept, Entry.written, reached, text, String.append_assoc]
    | false => simp [kept, Entry.written, reached]

end Log

/-! ## Transparent computations -/

namespace Rehearsal

/-- A machine with another minimum and another log. -/
def withLog (minimum : Log.Severity) (text : String) (r : Rehearsal) : Rehearsal :=
  { r with minimum, errorOutput := text }

/-- Logging adds the lines of what is written, and that is all. -/
theorem log_withLog (entries : List Log.Entry) (minimum : Log.Severity) (text : String)
    (r : Rehearsal) :
    host.log entries (r.withLog minimum text) =
      ((), r.withLog minimum (text ++ Log.text (Log.kept minimum entries))) := by
  show ((), withLog minimum (entries.foldl (fun text e => text ++ e.written minimum) text) r) = _
  rw [Log.foldl_written]

/-- A computation writes entries to the log, and otherwise the log and the minimum play no part in
it: they decide neither on its answer nor on the machine after it. -/
def Transparent {α : Type} (x : StateM Rehearsal α) : Prop :=
  ∀ r : Rehearsal, ∃ (answer : α) (after : Rehearsal) (entries : List Log.Entry),
    ∀ minimum text, x (r.withLog minimum text) =
      (answer, after.withLog minimum (text ++ Log.text (Log.kept minimum entries)))

namespace Transparent

variable {α β : Type}

theorem pure (answer : α) : Transparent (Pure.pure answer : StateM Rehearsal α) := by
  intro r
  refine ⟨answer, r, [], fun minimum text => ?_⟩
  show (answer, r.withLog minimum text) = _
  simp [Log.kept, Log.text]

theorem bind {x : StateM Rehearsal α} {f : α → StateM Rehearsal β} (first : Transparent x)
    (second : ∀ a, Transparent (f a)) : Transparent (x >>= f) := by
  intro r
  obtain ⟨a, r₁, entries, ran⟩ := first r
  obtain ⟨b, r₂, more, ran'⟩ := second a r₁
  refine ⟨b, r₂, entries ++ more, fun minimum text => ?_⟩
  show f (x _).1 (x _).2 = _
  rw [ran]
  show f a _ = _
  rw [ran', Log.text_kept_append, String.append_assoc]

theorem log (entries : List Log.Entry) : Transparent (host.log entries) :=
  fun r => ⟨(), r, entries, fun minimum text => log_withLog entries minimum text r⟩

/-- The service neither reads the log nor writes to it. -/
theorem answer (request : PageRequest) : Transparent (service.answer request) := by
  intro r
  refine ⟨(next (.error exhausted) r.outcomes).1,
    { r with
      outcomes := (next (.error exhausted) r.outcomes).2
      calls := r.calls ++ [.answer request] }, [], fun minimum text => ?_⟩
  rw [Log.kept, List.filter_nil, Log.text, String.append_empty]
  rfl

theorem file (handle : ExportHandle) : Transparent (service.file handle) := by
  intro r
  refine ⟨(next (.error exhausted) r.exportedFiles).1.map (·.under handle),
    { r with
      exportedFiles := (next (.error exhausted) r.exportedFiles).2
      calls := r.calls ++ [.file handle] }, [], fun minimum text => ?_⟩
  rw [Log.kept, List.filter_nil, Log.text, String.append_empty]
  rfl

end Transparent

end Rehearsal

/-! ## Sessions -/

open Rehearsal (Transparent host service)

namespace Session

variable (s : Session)

theorem send_transparent (r : IssuedRequest) : Transparent (send service r) :=
  .bind (.answer r.request) fun _ => .pure _

theorem roundTrip_transparent (issued : Step IssuedRequest) :
    Transparent (roundTrip service host.log issued) :=
  .bind (.log issued.events) fun _ => .bind (send_transparent issued.answer) fun _ =>
    .bind (.log _) fun _ => .pure _

theorem browse_transparent : Transparent (s.browse service host.log) :=
  roundTrip_transparent s.issueBrowse

theorem requestExport_transparent (size : Option UInt32) :
    Transparent (s.requestExport service host.log size) := by
  simp only [requestExport]
  cases (s.issueExport size).answer with
  | error e => exact .pure _
  | ok request => exact .bind (roundTrip_transparent _) fun _ => .pure _

theorem fetchFile_transparent : Transparent (s.fetchFile service host.log) := by
  unfold fetchFile
  cases s.query.lastExport with
  | none => exact .pure _
  | some handle => exact .bind (.file handle) fun _ => .bind (.log _) fun _ => .pure _

end Session

theorem Action.perform_transparent (action : Action) (s : Session) :
    Transparent (action.perform service host.log s) := by
  cases action with
  | operation op => exact .bind (.log (op.step s).events) fun _ => .pure _
  | send r => exact .bind (Session.send_transparent r) fun _ => .pure _
  | browse => exact .bind s.browse_transparent fun _ => .pure _
  | requestExport size => exact .bind (s.requestExport_transparent size) fun _ => .pure _
  | fetchFile => exact .bind s.fetchFile_transparent fun _ => .pure _

/-! ## Histories -/

/-- What is yielded at some moment, with the session and the world after it. -/
structure Moment (σ : Type) where
  result : Action.Result
  session : Session
  world : σ

namespace Session

variable {σ : Type} (service : Service (StateM σ)) (log : List Log.Entry → StateM σ Unit)

/-- The moments after each of some actions. -/
def moments : List Action → Session → σ → List (Moment σ)
  | [], _, _ => []
  | action :: actions, s, w =>
    let ((result, s), w) := action.perform service log s w
    { result, session := s, world := w } :: moments actions s w

/-- The moments from the start of a session on. -/
def history (id : String) (settings : Settings) (actions : List Action) (w : σ) :
    List (Moment σ) :=
  let started := start id settings
  let (_, w) := log started.events w
  { result := .started, session := started.session, world := w } ::
    moments service log actions started.session w

end Session

/-- Two moments that are told apart by the label of the session and by the log alone, where the
second log has those entries of the first that reach the minimum of the second.  What each log
starts with are entries of its own; all others are shared. -/
structure Moment.Observed (a b : Log.Severity) (id level before before' : String)
    (own own' : List Log.Entry) (x y : Moment Rehearsal) : Prop where
  result : y.result = x.result
  session : y.session = x.session.labelled id level
  world : y.world = x.world.withLog b y.world.errorOutput
  log : ∃ shared,
    x.world.errorOutput = before ++ Log.text (Log.kept a (own ++ shared)) ∧
    y.world.errorOutput = before' ++ Log.text (Log.kept b (Log.kept a (own' ++ shared)))

namespace Session

open List (Forall₂)

variable {a b : Log.Severity} {id level before before' : String} {own own' : List Log.Entry}

theorem moments_observed (le : a.reaches b) (actions : List Action) (s : Session) (r : Rehearsal)
    (shared : List Log.Entry) :
    Forall₂ (Moment.Observed a b id level before before' own own')
      (moments service host.log actions s
        (r.withLog a (before ++ Log.text (Log.kept a (own ++ shared)))))
      (moments service host.log actions (s.labelled id level)
        (r.withLog b (before' ++ Log.text (Log.kept b (own' ++ shared))))) := by
  -- The induction carries the entries logged so far: each action adds its own at the end.
  induction actions generalizing s r shared with
  | nil => exact .nil
  | cons action actions ih =>
    obtain ⟨⟨result, s'⟩, r', entries, ran⟩ := action.perform_transparent s r
    have ran' : ∀ text, action.perform service host.log (s.labelled id level) (r.withLog b text) =
        ((result, s'.labelled id level),
          r'.withLog b (text ++ Log.text (Log.kept b entries))) := by
      intro text
      rw [Action.perform_labelled]
      show (let ran := action.perform service host.log s (r.withLog b text)
        ((ran.1.1, ran.1.2.labelled id level), ran.2)) = _
      rw [ran]
    simp only [moments, ran, ran', String.append_assoc, ← Log.text_kept_append, List.append_assoc]
    refine .cons ⟨rfl, rfl, rfl, shared ++ entries, rfl, ?_⟩ (ih s' r' (shared ++ entries))
    rw [Log.kept_kept le]
    rfl

/-- Whatever is done to a session, two histories of it that differ in the least severity that is
written yield the same results and sessions, moment by moment, and leave the same world, the calls
of the service included.  Only the logs differ, and there the higher minimum has exactly those
entries of the lower that reach it.  The second session may have another name, and it may have the
other minimum in its settings. -/
theorem history_observed (le : a.reaches b) (id id' level : String) (settings : Settings)
    (actions : List Action) (r : Rehearsal) (before before' : String) :
    let settings' := { settings with logLevel := level }
    Forall₂ (Moment.Observed a b id' level before before'
        (start id settings).events (start id' settings').events)
      (history service host.log id settings actions (r.withLog a before))
      (history service host.log id' settings' actions (r.withLog b before')) := by
  intro settings'
  have later : Forall₂ (Moment.Observed a b id' level before before'
      (start id settings).events (start id' settings').events) _ _ :=
    moments_observed le actions (start id settings).session r []
  simp only [List.append_nil] at later
  simp only [history, Rehearsal.log_withLog]
  refine .cons ⟨rfl, rfl, rfl, [], ?_, ?_⟩ later
  · rw [List.append_nil]
    rfl
  · rw [List.append_nil, Log.kept_kept le]
    rfl

/-- A preset, a request that fails, and a file that nobody has asked for. -/
theorem history_observed_of_failure :
    let actions : List Action := [.operation (.preset .nameLike), .browse, .fetchFile]
    let r : Rehearsal :=
      { sessionId := "s", files := ⟨[], [], []⟩, outcomes := [.error (.network "down")] }
    let low := history service host.log "s" {} actions (r.withLog .trace "")
    let high := history service host.log "t" { logLevel := "ERROR" } actions (r.withLog .error "")
    Log.Severity.reaches .trace .error ∧
      Forall₂ (Moment.Observed .trace .error "t" "ERROR" "" "" (start "s" {}).events
        (start "t" { logLevel := "ERROR" }).events) low high ∧
      high.map (·.world.calls.length) = [0, 0, 1, 1] := by
  intro actions r low high
  have reaches : Log.Severity.reaches .trace .error := rfl
  have observed := history_observed reaches "s" "t" "ERROR" {} actions r "" ""
  exact ⟨rfl, observed, by decide +kernel⟩

end Session

end EntityQuery
