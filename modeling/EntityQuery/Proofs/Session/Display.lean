import EntityQuery.Proofs.Session.Run

/-!
# Who owns the display

The display shows the last event of a run: that a request was issued, or the
answer that landed.

## Main Definitions

* `Reaction.ofOutcome`: what the user sees of an outcome under a projection.
* `Turn.shown?`: the display that a turn brings up.
* `Turn.IsEvent`: a turn issues a request or lands an answer.

## Main Statements

* `Query.land_fst`: nothing but the projection of a query enters the reaction.
* `Session.display_after`: a turn brings up its display, or none and then the
  one before it stays.
* `Session.display_run`: the display after a run.

## Design Notes

A stale answer is shown like any other.  Nothing is asked of the answers that
land: they may come in any order, repeat, or carry tickets of no request.
-/

namespace EntityQuery

/-- What the user sees of the outcome of a request of some kind, under a projection. -/
def Reaction.ofOutcome (fields : List String) (kind : RequestKind) (outcome : Outcome) : Reaction :=
  ({ Query.initial with fields }.land kind outcome).1

/-- Nothing but the projection of a query enters the reaction to an outcome. -/
theorem Query.land_fst (kind : RequestKind) (outcome : Outcome) (q : Query) :
    (q.land kind outcome).1 = .ofOutcome q.fields kind outcome := by
  rw [Reaction.ofOutcome]
  cases kind with
  | exports =>
    cases outcome with
    | error e => rfl
    | ok body =>
      simp only [land]
      cases ExportAnswer.ofBody body <;> rfl
  | browse =>
    simp only [land]
    cases ResultPage.ofOutcome outcome <;> rfl

/-! ## Turns -/

namespace Turn

/-- The display that a turn brings up: that a request is under way, or the answer. -/
def shown? (t : Turn) : Option Display :=
  match t.operation with
  | .land a => some (Reaction.ofOutcome t.before.query.fields a.kind a.outcome).display
  | _ => t.issued?.map fun _ => .loading

/-- A turn issues a request or lands an answer. -/
def IsEvent (t : Turn) : Prop :=
  (∃ r, t.issued? = some r) ∨ ∃ a, t.operation = .land a

variable {t : Turn}

theorem shown?_of_issued {r : IssuedRequest} (issued : t.issued? = some r) :
    t.shown? = some .loading := by
  obtain ⟨s, op⟩ := t
  cases op with
  | land a => cases issued
  | _ =>
    rw [shown?, issued]
    rfl

theorem shown?_of_land {a : Arrival} (lands : t.operation = .land a) :
    t.shown? = some (Reaction.ofOutcome t.before.query.fields a.kind a.outcome).display := by
  rw [shown?, lands]

/-- Edits bring up no display. -/
theorem shown?_eq_none_iff : t.shown? = none ↔ ¬t.IsEvent := by
  constructor
  · rintro silent (⟨r, issued⟩ | ⟨a, lands⟩)
    · rw [shown?_of_issued issued] at silent
      cases silent
    · rw [shown?_of_land lands] at silent
      cases silent
  · intro quiet
    obtain ⟨notIssued, notLanded⟩ := not_or.mp quiet
    have issued : t.issued? = none :=
      Option.eq_none_iff_forall_ne_some.mpr (not_exists.mp notIssued)
    rw [shown?]
    split
    · rename_i a lands
      exact absurd ⟨a, lands⟩ notLanded
    · rw [issued]
      rfl

end Turn

namespace Session

/-- The notice for an arrival and the display after it come from its outcome and the projection. -/
theorem land_eq (a : Arrival) (s : Session) :
    (s.land a).answer = (Reaction.ofOutcome s.query.fields a.kind a.outcome).notice ∧
      (s.land a).session.display =
        (Reaction.ofOutcome s.query.fields a.kind a.outcome).display := by
  rw [← Query.land_fst]
  exact ⟨rfl, rfl⟩

/-- A turn brings up its display, or none and then the one before it stays. -/
theorem display_after (t : Turn) : t.after.display = t.shown?.getD t.before.display := by
  by_cases lands : ∃ a, t.operation = .land a
  · obtain ⟨a, lands⟩ := lands
    rw [Turn.shown?_of_land lands, Turn.after, lands]
    exact (land_eq a t.before).2
  · cases issued : t.issued? with
    | some r =>
      obtain ⟨query, -, -, after⟩ := Operation.apply_of_issued issued
      rw [Turn.shown?_of_issued issued, Turn.after, after]
      rfl
    | none =>
      obtain ⟨query, after⟩ := Operation.apply_of_quiet issued (not_exists.mp lands)
      have quiet : ¬t.IsEvent := by
        rintro (⟨r, issued'⟩ | landed)
        · rw [issued] at issued'
          cases issued'
        · exact lands landed
      rw [Turn.shown?_eq_none_iff.mpr quiet, Turn.after, after]
      rfl

/-! ## Runs -/

/-- The display is that of the last event: `loading` if that is a request, what its body says under
the projection of the time if it is an answer, and `idle` if there was none.  Landing looks at
nothing else, and edits keep the display. -/
theorem display_run (id : String) (settings : Settings) (ops : List Operation) :
    let s := (start id settings).session
    ((∀ t ∈ s.turns ops, ¬t.IsEvent) → (s.run ops).display = .idle) ∧
    (∀ earlier t later, s.turns ops = earlier ++ t :: later → (∀ t' ∈ later, ¬t'.IsEvent) →
      (∀ r, t.issued? = some r → (s.run ops).display = .loading) ∧
      ∀ a, t.operation = .land a →
        (s.run ops).display =
          (Reaction.ofOutcome t.before.query.fields a.kind a.outcome).display) ∧
    (∀ (a : Arrival) (s : Session),
      (s.land a).answer = (Reaction.ofOutcome s.query.fields a.kind a.outcome).notice ∧
        (s.land a).session.display =
          (Reaction.ofOutcome s.query.fields a.kind a.outcome).display) ∧
    ∀ t : Turn, ¬t.IsEvent → t.after.display = t.before.display := by
  intro s
  have last := view_run (·.display) display_after s ops
  refine ⟨fun quiet => ?_, fun earlier t later split quiet => ?_, land_eq, fun t quiet => ?_⟩
  · have none : (s.turns ops).filterMap Turn.shown? = [] :=
      List.filterMap_eq_nil_iff.mpr fun t mem => Turn.shown?_eq_none_iff.mpr (quiet t mem)
    rw [last, none]
    rfl
  · have shows {d : Display} (shown : t.shown? = some d) : (s.run ops).display = d := by
      have silent : ∀ t' ∈ later, t'.shown? = none :=
        fun t' mem => Turn.shown?_eq_none_iff.mpr (quiet t' mem)
      rw [last, Turn.getLast?_filterMap_eq_some_iff.mpr ⟨earlier, t, later, split, shown, silent⟩]
      rfl
    exact ⟨fun r issued => shows (Turn.shown?_of_issued issued),
      fun a lands => shows (Turn.shown?_of_land lands)⟩
  · rw [display_after, Turn.shown?_eq_none_iff.mpr quiet]
    rfl

/-- The answer to the first of two requests lands last, and takes the display. -/
theorem display_run_of_stale :
    let s := (start "s" {}).session
    let second : Arrival :=
      { ticket := 2, kind := .exports, outcome := .ok (.object [("file", .string "all.csv")]) }
    let first : Arrival := { ticket := 1, kind := .browse, outcome := .error (.network "timeout") }
    let ops := [.browse, .exports none, .land second, .land first, .edit .nextPage]
    (s.run ops).display = .error (ServiceError.network "timeout").message := by
  intro s second first ops
  have last := (display_run "s" {} ops).2.1 (s.turns [.browse, .exports none, .land second]) _ _ rfl
  refine (last fun t mem => ?_).2 first rfl
  cases List.mem_singleton.mp mem
  rintro (⟨r, issued⟩ | ⟨a, lands⟩)
  · cases issued
  · cases lands

end Session

end EntityQuery
