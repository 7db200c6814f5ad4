import EntityQuery.Query.Edit
import EntityQuery.Session.RoundTrip
import Mathlib.Data.List.Induction
import Mathlib.Data.List.Nodup

/-!
# Runs of a session

A session is driven by operations: edits of its query, requests, and answers
that land in whatever order they arrive.  A run is a list of operations.

## Main Definitions

* `Operation`: one operation, the request that it issues, the session after it.
* `Turn`: an operation with the session before it.
* `Session.run`, `Session.turns`: the session after a run, and the turns of it.
* `Session.Genuine`: every answer that lands is one to a request of the run.

## Main Statements

* `Operation.apply_of_issued`, `Operation.apply_of_quiet`: what an operation
  does, by whether it issues a request.
* `Session.requestExport_eq`: asking for an export is a run of two operations.
* `Session.view_run`: what is written by some turns and left alone by all
  others holds what was written last.
* `Session.tickets_turns`: tickets are counted up from the first.

## Design Notes

Sending a request does not touch the session, so it is no operation.  What it
yields is free, except that it carries the ticket and the kind of the request.
-/

namespace EntityQuery

namespace Session

variable {s : Session} {size : Option UInt32}

/-- An export of no rows is refused, and then nothing changes. -/
theorem issueExport_of_eq_zero (zero : size.getD s.settings.exportPageSize = 0) :
    s.issueExport size = { answer := .error .zeroPageSize, session := s } := by
  rw [issueExport, Query.resize, if_pos zero]

/-- Any other is issued, from the first page on. -/
theorem issueExport_of_ne_zero (positive : size.getD s.settings.exportPageSize ≠ 0) :
    s.issueExport size =
      let step := issue { s with query := { s.query with
        size := size.getD s.settings.exportPageSize, page := 0, exports := true } }
      { step with answer := .ok step.answer } := by
  rw [issueExport, Query.resize, if_neg positive]

theorem applyPreset_answer (p : Preset) (s : Session) :
    (s.applyPreset p).answer = (p.apply s.query).1 := by
  unfold applyPreset
  split <;> rename_i applied <;> rw [applied]

/-- A preset replaces the query, whether it is refused or not. -/
theorem applyPreset_session (p : Preset) (s : Session) :
    (s.applyPreset p).session = { s with query := (p.apply s.query).2 } := by
  unfold applyPreset
  split <;> rename_i applied <;> rw [applied]

end Session

/-- One operation on a session, with what it is given. -/
inductive Operation where
  | edit (e : Edit)
  /-- Replaces the criteria as a whole. -/
  | filters (b : BoundedCriteria)
  /-- Replaces the sorts as a whole. -/
  | sorts (o : SortOrder)
  | changeEntity (entity : String)
  | addSort
  | preset (p : Preset)
  | browse
  | exports (size : Option UInt32)
  | land (a : Arrival)

namespace Operation

/-- The request that an operation issues, if it issues one. -/
def issued? (op : Operation) (s : Session) : Option IssuedRequest :=
  match op with
  | .browse => some s.issueBrowse.answer
  | .exports size => (s.issueExport size).answer.toOption
  | _ => none

/-- The session after an operation. -/
def apply (op : Operation) (s : Session) : Session :=
  match op with
  | .edit e => { s with query := (e.apply s.catalog s.query).2 }
  | .filters b => { s with query := { s.query with filters := b } }
  | .sorts o => { s with query := { s.query with sorts := o } }
  | .changeEntity entity => (s.changeEntity entity).session
  | .addSort => s.addSort.session
  | .preset p => (s.applyPreset p).session
  | .browse => s.issueBrowse.session
  | .exports size => (s.issueExport size).session
  | .land a => (s.land a).session

variable {op : Operation} {s : Session} {r : IssuedRequest}

/-- The query that a request is made from: the one that there is, with its export flag set by the
operation, and of the first page and the size asked for if it is an export. -/
theorem apply_of_issued (issued : op.issued? s = some r) :
    ∃ query : Query,
      (op = .browse ∧ query = { s.query with exports := false } ∨
        ∃ size, op = .exports size ∧ query = { s.query with
          size := size.getD s.settings.exportPageSize, page := 0, exports := true }) ∧
      r = { ticket := s.nextTicket, kind := .ofFlag query.exports, request := query.request } ∧
      op.apply s = { s with
        query, display := .loading, inFlight := some s.nextTicket
        nextTicket := s.nextTicket + 1 } := by
  cases op with
  | browse =>
    cases issued
    exact ⟨_, .inl ⟨rfl, rfl⟩, rfl, rfl⟩
  | exports size =>
    by_cases zero : size.getD s.settings.exportPageSize = 0
    · rw [issued?, Session.issueExport_of_eq_zero zero] at issued
      cases issued
    · rw [issued?, Session.issueExport_of_ne_zero zero] at issued
      rw [apply, Session.issueExport_of_ne_zero zero]
      cases issued
      exact ⟨_, .inr ⟨size, rfl, rfl⟩, rfl, rfl⟩
  | _ => cases issued

/-- An operation that neither issues a request nor lands an answer edits the query, if anything. -/
theorem apply_of_quiet (quiet : op.issued? s = none) (lands : ∀ a, op ≠ .land a) :
    ∃ query, op.apply s = { s with query } := by
  cases op with
  | land a => exact absurd rfl (lands a)
  | browse => cases quiet
  | exports size =>
    by_cases zero : size.getD s.settings.exportPageSize = 0
    · rw [apply, Session.issueExport_of_eq_zero zero]
      exact ⟨s.query, rfl⟩
    · rw [issued?, Session.issueExport_of_ne_zero zero] at quiet
      cases quiet
  | preset p =>
    exact ⟨_, Session.applyPreset_session p s⟩
  | _ => exact ⟨_, rfl⟩

/-- Tickets are counted by the requests. -/
theorem nextTicket_apply (op : Operation) (s : Session) :
    (op.apply s).nextTicket = s.nextTicket + (op.issued? s).toList.length := by
  cases issued : op.issued? s with
  | some r =>
    obtain ⟨query, -, -, after⟩ := apply_of_issued issued
    rw [after]
    rfl
  | none =>
    by_cases lands : ∃ a, op = .land a
    · obtain ⟨a, rfl⟩ := lands
      rfl
    · obtain ⟨query, after⟩ := apply_of_quiet issued (not_exists.mp lands)
      rw [after]
      rfl

end Operation

/-- One operation of a run, with the session before it. -/
structure Turn where
  before : Session
  operation : Operation

namespace Turn

/-- The session after a turn. -/
def after (t : Turn) : Session :=
  t.operation.apply t.before

/-- The request that a turn issues, if it issues one. -/
def issued? (t : Turn) : Option IssuedRequest :=
  t.operation.issued? t.before

/-- What was written last was written by a turn after which nothing was written. -/
theorem getLast?_filterMap_eq_some_iff {α : Type} {write? : Turn → Option α} {turns : List Turn}
    {v : α} :
    (turns.filterMap write?).getLast? = some v ↔ ∃ earlier t later,
      turns = earlier ++ t :: later ∧ write? t = some v ∧ ∀ t' ∈ later, write? t' = none := by
  rw [List.getLast?_filterMap, List.findSome?_eq_some_iff]
  constructor
  · rintro ⟨later, t, earlier, split, writes, silent⟩
    refine ⟨earlier.reverse, t, later.reverse, ?_, writes, fun t' mem => ?_⟩
    · rw [← List.reverse_reverse turns, split]
      simp
    · exact silent t' (List.mem_reverse.mp mem)
  · rintro ⟨earlier, t, later, rfl, writes, silent⟩
    refine ⟨later.reverse, t, earlier.reverse, by simp, writes, fun t' mem => ?_⟩
    exact silent t' (List.mem_reverse.mp mem)

end Turn

/-- What arrives when an issued request has been sent. -/
def IssuedRequest.arrival (r : IssuedRequest) (outcome : Outcome) : Arrival :=
  { ticket := r.ticket, kind := r.kind, outcome }

namespace Session

/-- The session after a run. -/
def run (s : Session) : List Operation → Session
  | [] => s
  | op :: ops => run (op.apply s) ops

/-- The turns of a run. -/
def turns (s : Session) : List Operation → List Turn
  | [] => []
  | op :: ops => { before := s, operation := op } :: turns (op.apply s) ops

/-- Every answer that lands is one to a request that was issued before. -/
def Genuine (s : Session) (ops : List Operation) : Prop :=
  ∀ earlier t later, s.turns ops = earlier ++ t :: later → ∀ a, t.operation = .land a →
    ∃ t' ∈ earlier, ∃ r outcome, t'.issued? = some r ∧ a = r.arrival outcome

variable {s : Session}

theorem run_append (s : Session) (ops more : List Operation) :
    s.run (ops ++ more) = (s.run ops).run more := by
  induction ops generalizing s with
  | nil => rfl
  | cons op ops ih => exact ih (op.apply s)

theorem turns_append (s : Session) (ops more : List Operation) :
    s.turns (ops ++ more) = s.turns ops ++ (s.run ops).turns more := by
  induction ops generalizing s with
  | nil => rfl
  | cons op ops ih => exact congrArg _ (ih (op.apply s))

/-- One more operation is one more turn, and the run ends where that does. -/
theorem run_concat (s : Session) (ops : List Operation) (op : Operation) :
    s.run (ops ++ [op]) = Turn.after ⟨s.run ops, op⟩ :=
  run_append s ops [op]

theorem turns_concat (s : Session) (ops : List Operation) (op : Operation) :
    s.turns (ops ++ [op]) = s.turns ops ++ [⟨s.run ops, op⟩] :=
  turns_append s ops [op]

/-- A turn of a run starts from where the operations before it have led. -/
theorem exists_of_turns_eq {ops : List Operation} {earlier later : List Turn} {t : Turn}
    (split : s.turns ops = earlier ++ t :: later) :
    ∃ before after, ops = before ++ t.operation :: after ∧ earlier = s.turns before ∧
      t.before = s.run before := by
  induction ops generalizing s earlier with
  | nil => simp [turns] at split
  | cons op ops ih =>
    cases earlier with
    | nil =>
      obtain ⟨rfl, -⟩ := List.cons.inj split
      exact ⟨[], ops, rfl, rfl, rfl⟩
    | cons first earlier =>
      obtain ⟨rfl, rest⟩ := List.cons.inj split
      obtain ⟨before, after, rfl, rfl, started⟩ := ih rest
      exact ⟨op :: before, after, rfl, rfl, started⟩

theorem genuine_nil (s : Session) : s.Genuine [] := by
  rintro earlier t later split
  cases earlier <;> cases split

/-- A run stays genuine with one more operation, if that lands an answer to a request so far. -/
theorem Genuine.concat {ops : List Operation} (genuine : s.Genuine ops) (op : Operation)
    (answers : ∀ a, op = .land a →
      ∃ t ∈ s.turns ops, ∃ r outcome, t.issued? = some r ∧ a = r.arrival outcome) :
    s.Genuine (ops ++ [op]) := by
  intro earlier t later split a lands
  rw [turns_append] at split
  rcases List.eq_nil_or_concat later with rfl | ⟨later, last, rfl⟩
  · obtain ⟨rfl, last⟩ := List.append_inj' split rfl
    cases last
    exact answers a lands
  · rw [List.concat_eq_append, ← List.cons_append, ← List.append_assoc] at split
    exact genuine _ _ _ (List.append_inj' split rfl).1 a lands

/-- What is written by some turns and left alone by all others holds what was written last. -/
theorem view_run {α : Type} (view : Session → α) {write? : Turn → Option α}
    (step : ∀ t, view t.after = (write? t).getD (view t.before)) (s : Session)
    (ops : List Operation) :
    view (s.run ops) = (((s.turns ops).filterMap write?).getLast?).getD (view s) := by
  induction ops using List.reverseRecOn with
  | nil => rfl
  | append_singleton ops op ih =>
    have last := step { before := s.run ops, operation := op }
    rw [run_append, turns_append, List.filterMap_append, List.getLast?_append, Option.getD_or]
    rw [← ih]
    refine last.trans ?_
    simp only [turns, List.filterMap_cons, List.filterMap_nil]
    cases write? { before := s.run ops, operation := op } <;> rfl

/-! ## Tickets -/

/-- The tickets of the requests of a run are counted up from the first. -/
theorem tickets_turns (s : Session) (ops : List Operation) :
    ((s.turns ops).filterMap Turn.issued?).map (·.ticket) =
      List.range' s.nextTicket ((s.turns ops).filterMap Turn.issued?).length := by
  induction ops generalizing s with
  | nil => rfl
  | cons op ops ih =>
    have next := op.nextTicket_apply s
    cases issued : op.issued? s with
    | none =>
      rw [issued] at next
      simp only [turns, Turn.issued?, List.filterMap_cons, issued]
      rw [ih, next]
      rfl
    | some r =>
      obtain ⟨query, -, numbered, -⟩ := Operation.apply_of_issued issued
      rw [issued] at next
      simp only [turns, Turn.issued?, List.filterMap_cons, issued, List.map_cons, List.length_cons,
        List.range'_succ]
      rw [ih, next, numbered]
      rfl

/-- The next ticket is the first after those of the run. -/
theorem nextTicket_run (s : Session) (ops : List Operation) :
    (s.run ops).nextTicket =
      s.nextTicket + ((s.turns ops).filterMap Turn.issued?).length := by
  induction ops generalizing s with
  | nil => rfl
  | cons op ops ih =>
    rw [run, ih, op.nextTicket_apply s, turns, List.filterMap_cons, Turn.issued?]
    cases op.issued? s with
    | none => rfl
    | some r => exact Nat.add_right_comm _ _ _

/-- No two requests of a run have one ticket. -/
theorem eq_of_ticket_eq {ops : List Operation} {t t' : Turn} {r r' : IssuedRequest}
    (mem : t ∈ s.turns ops) (issued : t.issued? = some r) (mem' : t' ∈ s.turns ops)
    (issued' : t'.issued? = some r') (tickets : r.ticket = r'.ticket) : r = r' := by
  have nodup : (((s.turns ops).filterMap Turn.issued?).map (·.ticket)).Nodup := by
    rw [tickets_turns]
    exact List.nodup_range'
  exact List.inj_on_of_nodup_map nodup (List.mem_filterMap.mpr ⟨t, mem, issued⟩)
    (List.mem_filterMap.mpr ⟨t', mem', issued'⟩) tickets

/-! ## Round trips -/

variable {m : Type → Type} [Monad m] (service : Service m) (log : List Log.Entry → m Unit)

/-- Asking for an export is a run of two operations, unless it is refused. -/
theorem requestExport_eq [LawfulMonad m] (size : Option UInt32) (s : Session) :
    s.requestExport service log size =
      match (s.issueExport size).answer with
      | .error e => pure (.error (.query e), s.run [.exports size])
      | .ok r => (do
        log (s.issueExport size).events
        let a ← send service r
        log ((s.run [.exports size]).land a).events
        pure (.ok ((s.run [.exports size]).land a).answer, s.run [.exports size, .land a])) := by
  rw [requestExport]
  cases (s.issueExport size).answer with
  | error e => rfl
  | ok r =>
    simp only [roundTrip, bind_assoc, pure_bind]
    rfl

end Session

end EntityQuery
