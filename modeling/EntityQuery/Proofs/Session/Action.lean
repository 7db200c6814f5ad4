import EntityQuery.Proofs.Session.Run

/-!
# Actions on a session

Whatever is done to a session, with the events that this logs and the calls of
its service: single operations, sending a request, and whole round trips.

## Main Definitions

* `Reply`, `Operation.step`: what an operation answers, and an operation as a step
  of the session.
* `Action`: what is done to a session.
* `Action.Result`: what that yields.
* `Action.perform`: performing it, in any monad.
* `Session.labelled`: a session under another name and log level.

## Main Statements

* `Action.perform_labelled`: neither the name nor the log level of a session
  plays a part in what is done to it.

## Design Notes

A request that is sent need not be one that the session has issued, and an answer
that lands need not be one that the service has given.
-/

namespace EntityQuery

/-! ## Operations as steps -/

/-- What an operation answers. -/
inductive Reply where
  | done
  | edit (answer : Except QueryError Edit.Answer)
  | position (index : Nat)
  | preset (answer : Except QueryError Unit)
  | issued (answer : Except QueryError IssuedRequest)
  | landed (notice : Option Notice)

/-- A step with its answer replaced by what that maps to. -/
def Session.Step.map {α β : Type} (f : α → β) (step : Session.Step α) : Session.Step β :=
  { answer := f step.answer, session := step.session, events := step.events }

namespace Operation

/-- An operation as a step of the session. -/
def step (op : Operation) (s : Session) : Session.Step Reply :=
  match op with
  | .edit e =>
    let (answer, query) := e.apply s.catalog s.query
    { answer := .edit answer, session := { s with query } }
  | .filters b => { answer := .done, session := { s with query := { s.query with filters := b } } }
  | .sorts o => { answer := .done, session := { s with query := { s.query with sorts := o } } }
  | .changeEntity entity => (s.changeEntity entity).map fun _ => .done
  | .addSort => s.addSort.map .position
  | .preset p => (s.applyPreset p).map .preset
  | .browse => s.issueBrowse.map fun r => .issued (.ok r)
  | .exports size => (s.issueExport size).map .issued
  | .land a => (s.land a).map .landed

end Operation

/-! ## Actions -/

/-- What is done to a session, by its user or by its service. -/
inductive Action where
  | operation (op : Operation)
  /-- Sends a request; the answer does not land by itself. -/
  | send (r : IssuedRequest)
  | browse
  | requestExport (size : Option UInt32)
  | fetchFile

/-- What an action yields. -/
inductive Action.Result where
  | started
  | reply (reply : Reply)
  | arrival (a : Arrival)
  | browsed (notice : Option Notice)
  | exported (answer : Except SessionError (Option Notice))
  | file (answer : Except SessionError ExportedFile)

variable {m : Type → Type} [Monad m] (service : Service m) (log : List Log.Entry → m Unit)

/-- Performs an action; the answer is what it yields, with the session after it. -/
def Action.perform (action : Action) (s : Session) : m (Result × Session) := do
  match action with
  | .operation op =>
    let step := op.step s
    log step.events
    pure (.reply step.answer, step.session)
  | .send r =>
    let arrival ← Session.send service r
    pure (.arrival arrival, s)
  | .browse =>
    let (notice, s) ← s.browse service log
    pure (.browsed notice, s)
  | .requestExport size =>
    let (answer, s) ← s.requestExport service log size
    pure (.exported answer, s)
  | .fetchFile =>
    let answer ← s.fetchFile service log
    pure (.file answer, s)

/-! ## Names and log levels -/

namespace Session

/-- A session under another name, with another log level in its settings. -/
def labelled (id level : String) (s : Session) : Session :=
  { s with id, settings := { s.settings with logLevel := level } }

/-- A step whose session goes under another name, with another log level in its settings. -/
def Step.labelled {α : Type} (id level : String) (step : Step α) : Step α :=
  { step with session := step.session.labelled id level }

variable (id level : String) (s : Session)

theorem issueExport_labelled (size : Option UInt32) :
    (s.labelled id level).issueExport size = (s.issueExport size).labelled id level := by
  by_cases zero : size.getD s.settings.exportPageSize = 0
  · have zero' : size.getD (s.labelled id level).settings.exportPageSize = 0 := zero
    rw [issueExport_of_eq_zero zero, issueExport_of_eq_zero zero']
    rfl
  · have positive' : size.getD (s.labelled id level).settings.exportPageSize ≠ 0 := zero
    rw [issueExport_of_ne_zero zero, issueExport_of_ne_zero positive']
    rfl

theorem applyPreset_labelled (p : Preset) :
    (s.labelled id level).applyPreset p = (s.applyPreset p).labelled id level := by
  unfold applyPreset
  rw [show (s.labelled id level).query = s.query from rfl]
  rcases p.apply s.query with ⟨e | ⟨⟩, query⟩
  · rfl
  · rfl

theorem roundTrip_labelled [LawfulMonad m] (issued : Step IssuedRequest) :
    roundTrip service log (issued.labelled id level) = (do
      let (notice, s) ← roundTrip service log issued
      pure (notice, s.labelled id level)) := by
  simp only [roundTrip, bind_assoc, pure_bind]
  rfl

theorem browse_labelled [LawfulMonad m] :
    (s.labelled id level).browse service log = (do
      let (notice, s) ← s.browse service log
      pure (notice, s.labelled id level)) :=
  roundTrip_labelled service log id level s.issueBrowse

theorem requestExport_labelled [LawfulMonad m] (size : Option UInt32) :
    (s.labelled id level).requestExport service log size = (do
      let (answer, s) ← s.requestExport service log size
      pure (answer, s.labelled id level)) := by
  simp only [requestExport, issueExport_labelled, Step.labelled]
  cases (s.issueExport size).answer with
  | error e => simp only [pure_bind]
  | ok request =>
    have landed := roundTrip_labelled service log id level
      { s.issueExport size with answer := request }
    simp only [Step.labelled] at landed
    simp only [landed, bind_assoc, pure_bind]

end Session

/-- Neither the name nor the log level of a session plays a part in an operation. -/
theorem Operation.step_labelled (op : Operation) (id level : String) (s : Session) :
    op.step (s.labelled id level) = (op.step s).labelled id level := by
  cases op with
  | preset p =>
    simp only [step, Session.applyPreset_labelled]
    rfl
  | exports size =>
    simp only [step, Session.issueExport_labelled]
    rfl
  | _ => rfl

/-- Nor do they in any other action. -/
theorem Action.perform_labelled [LawfulMonad m] (action : Action) (id level : String)
    (s : Session) :
    action.perform service log (s.labelled id level) = (do
      let (result, s) ← action.perform service log s
      pure (result, s.labelled id level)) := by
  cases action with
  | operation op =>
    simp only [perform, Operation.step_labelled, bind_assoc, pure_bind]
    rfl
  | send r => simp only [perform, bind_assoc, pure_bind]
  | browse => simp only [perform, Session.browse_labelled, bind_assoc, pure_bind]
  | requestExport size => simp only [perform, Session.requestExport_labelled, bind_assoc, pure_bind]
  | fetchFile =>
    simp only [perform, bind_assoc, pure_bind]
    rfl

end EntityQuery
