import EntityQuery.Proofs.Session.Display

/-!
# The request in flight

A session holds the ticket of its latest request until the first answer under
that ticket lands.  Every other answer is stale, which is logged and changes
nothing else about the way it is applied.

## Main Definitions

* `Turn.IssuesUnder`, `Turn.LeavesPending`: what a turn means to the wait for a
  ticket.
* `Turn.Awaits`: turns end while their latest request awaits its answer.

## Main Statements

* `Turn.awaits_concat_iff`, `Turn.inFlight_after_iff`: one more turn does to the
  slot what it does to the wait.
* `Session.inFlight_eq_some_iff`: so the slot tells which request is awaited.
* `Session.inFlight_run`: tickets, slot, display and stale answers over a run.

## Design Notes

Answers are told by their tickets alone.  One that nobody has sent ends the wait
if its ticket is the right one, and is stale otherwise.
-/

namespace EntityQuery

/-- No outcome is shown as a request under way. -/
theorem Reaction.display_ofOutcome_ne_loading (fields : List String) (kind : RequestKind)
    (outcome : Outcome) : (Reaction.ofOutcome fields kind outcome).display ≠ .loading := by
  rw [ofOutcome]
  intro loading
  cases kind with
  | exports =>
    cases outcome with
    | error e => cases loading
    | ok body =>
      simp only [Query.land] at loading
      cases read : ExportAnswer.ofBody body <;> rw [read] at loading <;> cases loading
  | browse =>
    simp only [Query.land] at loading
    cases read : ResultPage.ofOutcome outcome with
    | error e =>
      rw [read] at loading
      cases loading
    | ok page =>
      simp only [read, ofPage] at loading
      split at loading <;> cases loading

/-! ## Waiting for a ticket -/

namespace Turn

/-- A turn issues a request under a ticket. -/
def IssuesUnder (t : Turn) (ticket : Ticket) : Prop :=
  ∃ r, t.issued? = some r ∧ r.ticket = ticket

/-- A turn neither issues a request nor lands an answer under a ticket. -/
def LeavesPending (t : Turn) (ticket : Ticket) : Prop :=
  t.issued? = none ∧ ∀ a, t.operation = .land a → a.ticket ≠ ticket

/-- The latest request among some turns has a ticket, and no answer under it has landed since. -/
def Awaits (turns : List Turn) (ticket : Ticket) : Prop :=
  ∃ earlier t later, turns = earlier ++ t :: later ∧ t.IssuesUnder ticket ∧
    ∀ t' ∈ later, t'.LeavesPending ticket

variable {t : Turn} {turns : List Turn} {ticket : Ticket}

theorem not_awaits_nil : ¬Awaits [] ticket := by
  rintro ⟨earlier, t, later, split, -⟩
  cases earlier <;> cases split

/-- A request is awaited from the turn that issues it on, through all turns that leave it pending. -/
theorem awaits_concat_iff :
    Awaits (turns ++ [t]) ticket ↔
      t.IssuesUnder ticket ∨ t.LeavesPending ticket ∧ Awaits turns ticket := by
  constructor
  · rintro ⟨earlier, t', later, split, issues, pending⟩
    rcases List.eq_nil_or_concat later with rfl | ⟨later, last, rfl⟩
    · cases (List.append_inj' split rfl).2
      exact .inl issues
    · rw [List.concat_eq_append, ← List.cons_append, ← List.append_assoc] at split
      obtain ⟨rfl, same⟩ := List.append_inj' split rfl
      cases same
      rw [List.concat_eq_append, List.forall_mem_append] at pending
      exact .inr ⟨pending.2 t List.mem_cons_self, earlier, t', later, rfl, issues, pending.1⟩
  · rintro (issues | ⟨leaves, earlier, t', later, rfl, issues, pending⟩)
    · exact ⟨turns, t, [], rfl, issues, fun _ mem => absurd mem List.not_mem_nil⟩
    · refine ⟨earlier, t', later ++ [t], by simp, issues, ?_⟩
      rw [List.forall_mem_append, List.forall_mem_singleton]
      exact ⟨pending, leaves⟩

/-- A turn puts the ticket of its request into the slot, and takes out that of its answer. -/
theorem inFlight_after_iff (t : Turn) :
    t.after.inFlight = some ticket ↔
      t.IssuesUnder ticket ∨ t.LeavesPending ticket ∧ t.before.inFlight = some ticket := by
  cases issued : t.issued? with
  | some r =>
    obtain ⟨query, -, numbered, after⟩ := Operation.apply_of_issued issued
    rw [Turn.after, after]
    simp [IssuesUnder, LeavesPending, issued, numbered]
  | none =>
    simp only [IssuesUnder, LeavesPending, issued, reduceCtorEq, false_and, exists_false, false_or,
      true_and]
    by_cases lands : ∃ a, t.operation = .land a
    · obtain ⟨a, lands⟩ := lands
      have after : t.after.inFlight =
          if t.before.inFlight = some a.ticket then none else t.before.inFlight := by
        rw [Turn.after, lands]
        rfl
      rw [after, lands]
      simp only [Operation.land.injEq, forall_eq']
      by_cases hit : t.before.inFlight = some a.ticket
      · simp [hit]
      · rw [if_neg hit]
        refine ⟨fun slot => ⟨fun same => hit (same ▸ slot), slot⟩, And.right⟩
    · obtain ⟨query, after⟩ := Operation.apply_of_quiet issued (not_exists.mp lands)
      rw [Turn.after, after]
      simp [not_exists.mp lands]

theorem shown?_eq_loading_iff : t.shown? = some .loading ↔ ∃ r, t.issued? = some r := by
  constructor
  · intro shows
    by_cases lands : ∃ a, t.operation = .land a
    · obtain ⟨a, lands⟩ := lands
      rw [shown?_of_land lands, Option.some.injEq] at shows
      exact absurd shows (Reaction.display_ofOutcome_ne_loading _ _ _)
    · by_contra silent
      have quiet : t.shown? = none := shown?_eq_none_iff.mpr (not_or.mpr ⟨silent, lands⟩)
      rw [quiet] at shows
      cases shows
  · rintro ⟨r, issued⟩
    exact shown?_of_issued issued

/-- What brings up no display ends no wait. -/
theorem leavesPending_of_not_isEvent (quiet : ¬t.IsEvent) (ticket : Ticket) :
    t.LeavesPending ticket := by
  obtain ⟨notIssued, notLanded⟩ := not_or.mp quiet
  refine ⟨Option.eq_none_iff_forall_ne_some.mpr (not_exists.mp notIssued), fun a lands => ?_⟩
  exact absurd ⟨a, lands⟩ notLanded

end Turn

namespace Session

variable {s : Session} {ops : List Operation}

/-- The slot holds the ticket that is awaited, and is empty if there is none. -/
theorem inFlight_eq_some_iff (idle : s.inFlight = none) (ops : List Operation) (ticket : Ticket) :
    (s.run ops).inFlight = some ticket ↔ Turn.Awaits (s.turns ops) ticket := by
  -- From the back, since a wait depends on what comes last.
  induction ops using List.reverseRecOn with
  | nil => simp [run, turns, idle, Turn.not_awaits_nil]
  | append_singleton ops op ih =>
    rw [run_concat, turns_concat, Turn.inFlight_after_iff, Turn.awaits_concat_iff, ih]

/-- The event that tells how an outcome was read is another one. -/
theorem event_outcomeEntry_ne_stale (ticket : Ticket) (outcome : Outcome) (reaction : Reaction) :
    (outcomeEntry ticket outcome reaction).event ≠ .staleResponseApplied := by
  rw [outcomeEntry]
  split <;> exact nofun

/-- Landing logs a stale answer exactly if the slot does not hold its ticket. -/
theorem logs_stale_iff (a : Arrival) (s : Session) :
    (∃ e ∈ (s.land a).events, e.event = .staleResponseApplied) ↔
      s.inFlight ≠ some a.ticket := by
  simp only [land, List.mem_append, List.mem_singleton, or_and_right, exists_or, exists_eq_left,
    event_outcomeEntry_ne_stale, or_false]
  rw [staleEntries]
  by_cases held : s.inFlight = some a.ticket
  · simp [held]
  · simp [held]

/-- While a request is shown as under way, the slot holds the latest one. -/
theorem inFlight_of_loading (idle : s.inFlight = none) (quiet : s.display ≠ .loading)
    (loading : (s.run ops).display = .loading) :
    ∃ r, ((s.turns ops).filterMap Turn.issued?).getLast? = some r ∧
      (s.run ops).inFlight = some r.ticket := by
  have shown : ((s.turns ops).filterMap Turn.shown?).getLast? = some .loading := by
    have last := view_run (·.display) display_after s ops
    rw [loading] at last
    cases shown : ((s.turns ops).filterMap Turn.shown?).getLast? with
    | none =>
      rw [shown] at last
      exact absurd last.symm quiet
    | some d =>
      rw [shown] at last
      exact congrArg some last.symm
  obtain ⟨earlier, t, later, split, shows, silent⟩ := Turn.getLast?_filterMap_eq_some_iff.mp shown
  obtain ⟨r, issued⟩ := Turn.shown?_eq_loading_iff.mp shows
  have pending : ∀ t' ∈ later, t'.LeavesPending r.ticket := fun t' mem =>
    Turn.leavesPending_of_not_isEvent (Turn.shown?_eq_none_iff.mp (silent t' mem)) r.ticket
  refine ⟨r, ?_, ?_⟩
  · exact Turn.getLast?_filterMap_eq_some_iff.mpr
      ⟨earlier, t, later, split, issued, fun t' mem => (pending t' mem).1⟩
  · exact (inFlight_eq_some_iff idle ops r.ticket).mpr
      ⟨earlier, t, later, split, ⟨r, issued, rfl⟩, pending⟩

/-- Requests are numbered from one on, and the slot holds the latest while no answer under its
ticket has landed.  Only then can the display show a request as under way.  Landing logs a stale
answer exactly if its ticket is not awaited, and applies it all the same. -/
theorem inFlight_run (id : String) (settings : Settings) (ops : List Operation) :
    let s := (start id settings).session
    let issued := (s.turns ops).filterMap Turn.issued?
    issued.map (·.ticket) = List.range' 1 issued.length ∧
    (s.run ops).nextTicket = issued.length + 1 ∧
    (∀ ticket, (s.run ops).inFlight = some ticket ↔ Turn.Awaits (s.turns ops) ticket) ∧
    ((s.run ops).display = .loading →
      ∃ r, issued.getLast? = some r ∧ (s.run ops).inFlight = some r.ticket) ∧
    ∀ earlier t later a, s.turns ops = earlier ++ t :: later → t.operation = .land a →
      ((∃ e ∈ (t.before.land a).events, e.event = .staleResponseApplied) ↔
        ¬Turn.Awaits earlier a.ticket) ∧
      t.after.display = (Reaction.ofOutcome t.before.query.fields a.kind a.outcome).display ∧
      t.after.query = (t.before.query.land a.kind a.outcome).2 := by
  intro s issued
  refine ⟨tickets_turns s ops, ?_, inFlight_eq_some_iff rfl ops,
    inFlight_of_loading rfl nofun, fun earlier t later a split lands => ⟨?_, ?_, ?_⟩⟩
  · rw [nextTicket_run]
    exact Nat.add_comm _ _
  · obtain ⟨before, after, -, rfl, started⟩ := exists_of_turns_eq split
    rw [logs_stale_iff, started, ← inFlight_eq_some_iff rfl]
  · rw [Turn.after, lands]
    exact (land_eq a t.before).2
  · rw [Turn.after, lands]
    rfl

/-- The second of two requests is answered twice, and then the first.  All of these answers but one
are stale. -/
theorem inFlight_run_of_repeated_answer :
    let s := (start "s" {}).session
    let second : Arrival :=
      { ticket := 2, kind := .exports, outcome := .ok (.object [("file", .string "all.csv")]) }
    let first : Arrival := { ticket := 1, kind := .browse, outcome := .error (.network "timeout") }
    let stale (ops : List Operation) (a : Arrival) : Prop :=
      ∃ e ∈ ((s.run ops).land a).events, e.event = .staleResponseApplied
    ¬stale [.browse, .exports none] second ∧
      stale [.browse, .exports none, .land second] second ∧
      stale [.browse, .exports none, .land second, .land second] first := by
  intro s second first stale
  have stale_iff (ops : List Operation) (a : Arrival) :
      stale ops a ↔ ¬Turn.Awaits (s.turns ops) a.ticket :=
    ((inFlight_run "s" {} (ops ++ [.land a])).2.2.2.2 _ _ [] a (turns_concat s ops _) rfl).1
  have slot_iff (ops : List Operation) (ticket : Ticket) :
      (s.run ops).inFlight = some ticket ↔ Turn.Awaits (s.turns ops) ticket :=
    (inFlight_run "s" {} ops).2.2.1 ticket
  refine ⟨?_, ?_, ?_⟩
  · rw [stale_iff, not_not, ← slot_iff]
    rfl
  · rw [stale_iff, ← slot_iff]
    exact nofun
  · rw [stale_iff, ← slot_iff]
    exact nofun

end Session

end EntityQuery
