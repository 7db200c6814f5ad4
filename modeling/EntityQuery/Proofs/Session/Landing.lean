import EntityQuery.Proofs.Session.ExportHandle

/-!
# What an answer leaves

An answer comes to one of five things, and each of them settles the display, the
notice and the query together.  A failure shows one text in both places and
leaves the query as it was, so the next request is the one that would have been
issued without it.

## Main Definitions

* `RequestKind.Fails`: which outcomes are failures, and of what error.
* `Json.NamesFile`: the file that a body names.
* `Query.Lands`: the five things that an outcome comes to.
* `Operation.Fails`: a failure lands.

## Main Statements

* `Query.lands_land`: landing comes to one of the five.
* `Query.Lands.of_fails`, `Query.Lands.of_exports`, `Query.Lands.of_page`: which
  of them, by the outcome.
* `Query.Lands.fails_of_shown`: whether it is a failure, by what is seen.
* `Session.request_run_of_failures`: what is asked for after failures.
* `Session.land_rollsBack`: failures are taken back as a whole.

## Design Notes

A body fails a browse request if it is no page.  No body fails an export: one
that names no file is shown as it is.
-/

namespace EntityQuery

/-- A request fails without an answer, and a browse request also with one that is no page. -/
inductive RequestKind.Fails : RequestKind → Outcome → ServiceError → Prop
  | unanswered (kind : RequestKind) (e : ServiceError) : Fails kind (.error e) e
  | noPage {body : Json} {e : Json.Error} (unread : ResultPage.ofJson body = .error e) :
      Fails .browse (.ok body) (.malformed e.message)

/-- An outcome fails of one error. -/
theorem RequestKind.Fails.unique {kind : RequestKind} {outcome : Outcome} {e e' : ServiceError}
    (fails : kind.Fails outcome e) (fails' : kind.Fails outcome e') : e = e' := by
  cases fails with
  | unanswered =>
    cases fails'
    rfl
  | noPage unread =>
    cases fails' with
    | noPage unread' =>
      rw [unread] at unread'
      cases unread'
      rfl

/-- A body is an object in which `file` is a string other than the empty one. -/
def Json.NamesFile (body : Json) (h : ExportHandle) : Prop :=
  ∃ members, body = .object members ∧ members.lookup "file" = some (.string h.path) ∧ h.path ≠ ""

theorem ExportAnswer.handle?_eq_some_iff_namesFile {body : Json} {h : ExportHandle} :
    handle? body = some h ↔ body.NamesFile h := by
  rw [handle?_eq_some_iff]
  constructor
  · rintro ⟨named, filled⟩
    cases body with
    | object members => exact ⟨members, rfl, named, filled⟩
    | _ => cases named
  · rintro ⟨members, rfl, named, filled⟩
    exact ⟨named, filled⟩

/-! ## One answer -/

namespace Query

/-- What an outcome comes to: the reaction to it, and the query after it. -/
inductive Lands (q : Query) : RequestKind → Outcome → Reaction → Query → Prop
  | failure {kind : RequestKind} {outcome : Outcome} {e : ServiceError}
      (fails : kind.Fails outcome e) :
      Lands q kind outcome
        { display := .error e.message, notice := some (.alert e.message) } q
  | file {body : Json} {h : ExportHandle} (names : body.NamesFile h) :
      Lands q .exports (.ok body)
        { display := .exportFinished, notice := some (.exportReady h) }
        { q with lastExport := some h }
  | noFile {body : Json} (silent : ∀ h, ¬body.NamesFile h) :
      Lands q .exports (.ok body)
        { display := .exportFinished, notice := some (.exportDiagnostic body.compact) } q
  | rows {body : Json} {page : ResultPage} (read : ResultPage.ofJson body = .ok page)
      (filled : page.rows ≠ []) :
      Lands q .browse (.ok body)
        { display := .table
            { headers := q.fields, rows := page.rows.map (Table.cells q.fields), place := page.place }
          notice := none } q
  | noRows {body : Json} {page : ResultPage} (read : ResultPage.ofJson body = .ok page)
      (blank : page.rows = []) :
      Lands q .browse (.ok body) { display := .noResults page.place, notice := none } q

variable {kind : RequestKind} {outcome : Outcome} {q : Query}

/-- Landing comes to one of the five. -/
theorem lands_land (kind : RequestKind) (outcome : Outcome) (q : Query) :
    q.Lands kind outcome (q.land kind outcome).1 (q.land kind outcome).2 := by
  cases outcome with
  | error e => cases kind <;> exact .failure (.unanswered _ e)
  | ok body =>
    cases kind with
    | exports =>
      rw [land, ExportAnswer.ofBody]
      cases named : ExportAnswer.handle? body with
      | some h => exact .file (ExportAnswer.handle?_eq_some_iff_namesFile.mp named)
      | none =>
        refine .noFile fun h names => ?_
        rw [ExportAnswer.handle?_eq_some_iff_namesFile.mpr names] at named
        cases named
    | browse =>
      rw [land, ResultPage.ofOutcome]
      cases read : ResultPage.ofJson body with
      | error e => exact .failure (.noPage read)
      | ok page =>
        simp only [Reaction.ofPage, Table.ofPage?, List.isEmpty_iff]
        by_cases blank : page.rows = []
        · rw [if_pos blank]
          exact .noRows read blank
        · rw [if_neg blank]
          exact .rows read blank

namespace Lands

variable {reaction : Reaction} {after : Query} {e : ServiceError}

/-- A failure leaves the query as it was, and both texts are that of its error. -/
theorem of_fails (lands : q.Lands kind outcome reaction after) (fails : kind.Fails outcome e) :
    after = q ∧ reaction = .ofFailure e := by
  cases lands with
  | failure fails' =>
    rw [fails'.unique fails]
    exact ⟨rfl, rfl⟩
  | file | noFile => cases fails
  | rows read | noRows read =>
    cases fails with
    | noPage unread =>
      rw [read] at unread
      cases unread

/-- An answer to an export is never a failure: the file in it is kept and announced, or the whole
body is shown. -/
theorem of_exports {body : Json} (lands : q.Lands .exports (.ok body) reaction after) :
    reaction.display = .exportFinished ∧
      ((∃ h, body.NamesFile h ∧ after = { q with lastExport := some h } ∧
          reaction.notice = some (.exportReady h)) ∨
        (∀ h, ¬body.NamesFile h) ∧ after = q ∧
          reaction.notice = some (.exportDiagnostic body.compact)) := by
  cases lands with
  | failure fails => cases fails
  | file names => exact ⟨rfl, .inl ⟨_, names, rfl, rfl⟩⟩
  | noFile silent => exact ⟨rfl, .inr ⟨silent, rfl, rfl⟩⟩

/-- A page is shown as a table of its rows, if it has any. -/
theorem of_page {body : Json} {page : ResultPage} (read : ResultPage.ofJson body = .ok page)
    (lands : q.Lands .browse (.ok body) reaction after) :
    after = q ∧ reaction.notice = none ∧
      (page.rows ≠ [] → reaction.display = .table
        { headers := q.fields, rows := page.rows.map (Table.cells q.fields), place := page.place }) ∧
      (page.rows = [] → reaction.display = .noResults page.place) := by
  cases lands with
  | failure fails =>
    cases fails with
    | noPage unread =>
      rw [read] at unread
      cases unread
  | rows read' filled =>
    rw [read] at read'
    cases read'
    exact ⟨rfl, rfl, fun _ => rfl, fun blank => absurd blank filled⟩
  | noRows read' blank =>
    rw [read] at read'
    cases read'
    exact ⟨rfl, rfl, fun filled => absurd blank filled, fun _ => rfl⟩

/-- Only of a failure is an error shown, or an alert raised. -/
theorem fails_of_shown (lands : q.Lands kind outcome reaction after)
    (shown : (∃ message, reaction.display = .error message) ∨
      ∃ message, reaction.notice = some (.alert message)) : ∃ e, kind.Fails outcome e := by
  cases lands with
  | failure fails => exact ⟨_, fails⟩
  | _ => rcases shown with ⟨message, shown⟩ | ⟨message, shown⟩ <;> cases shown

/-- Nothing but the handle is ever changed, and that only to the file that the answer to an export
names. -/
theorem after_eq (lands : q.Lands kind outcome reaction after) :
    after = q ∨ kind = .exports ∧ ∃ body h, outcome = .ok body ∧ body.NamesFile h ∧
      after = { q with lastExport := some h } := by
  cases lands with
  | file names => exact .inr ⟨rfl, _, _, rfl, names, rfl⟩
  | _ => exact .inl rfl

end Lands

end Query

/-! ## Runs of failures -/

/-- A failure lands. -/
def Operation.Fails (op : Operation) : Prop :=
  ∃ a e, op = .land a ∧ a.kind.Fails a.outcome e

namespace Session

variable {s : Session} {op : Operation} {ops : List Operation}

/-- A failure leaves the query of the session as it was. -/
theorem query_apply_of_fails (fails : op.Fails) (s : Session) :
    (op.apply s).query = s.query := by
  obtain ⟨a, e, rfl, fails⟩ := fails
  have lands := s.query.lands_land a.kind a.outcome
  exact (lands.of_fails fails).1

/-- Neither failures nor browse requests change what the next browse request asks for: the one
leaves the query alone, and the other sets the flag that the next one sets anyway. -/
theorem request_run_of_failures (quiet : ∀ op ∈ ops, op.Fails ∨ op = .browse) (s : Session) :
    (s.run ops).issueBrowse.answer.request = s.issueBrowse.answer.request := by
  induction ops generalizing s with
  | nil => rfl
  | cons op ops ih =>
    have rest : ∀ op ∈ ops, op.Fails ∨ op = .browse :=
      fun op mem => quiet op (List.mem_cons_of_mem _ mem)
    have kept : (op.apply s).issueBrowse.answer.request = s.issueBrowse.answer.request := by
      rcases quiet op List.mem_cons_self with fails | rfl
      · have same := query_apply_of_fails fails s
        change { (op.apply s).query with exports := false }.request = _
        rw [same]
        rfl
      · rfl
    exact (ih rest (op.apply s)).trans kept

/-- Failures are taken back as a whole.  Landing changes nothing of a query but its handle, and that
only to the file that the answer to an export names.  It shows an error exactly if it raises an
alert, and that exactly if the outcome is a failure: then both have the text of its error, and the
query is as it was.  Any other answer to an export ends the export, with the handle just kept or with
the whole body; any other answer to a browse request is a page, without a notice, and a table exactly
if it has rows.  So the request after failures is the one that would have been issued before them. -/
theorem land_rollsBack :
    (∀ (kind : RequestKind) (outcome : Outcome) (q : Query),
      let reaction := (q.land kind outcome).1
      let after := (q.land kind outcome).2
      (after = q ∨ kind = .exports ∧ ∃ body h, outcome = .ok body ∧ body.NamesFile h ∧
        after = { q with lastExport := some h }) ∧
      ((∃ message, reaction.display = .error message) ↔ ∃ e, kind.Fails outcome e) ∧
      ((∃ message, reaction.notice = some (.alert message)) ↔ ∃ e, kind.Fails outcome e) ∧
      (∀ e, kind.Fails outcome e → after = q ∧
        reaction.display = .error e.message ∧ reaction.notice = some (.alert e.message)) ∧
      (∀ body, kind = .exports → outcome = .ok body →
        reaction.display = .exportFinished ∧
        ((∃ h, body.NamesFile h ∧ after = { q with lastExport := some h } ∧
            reaction.notice = some (.exportReady h)) ∨
          (∀ h, ¬body.NamesFile h) ∧ after = q ∧
            reaction.notice = some (.exportDiagnostic body.compact))) ∧
      (∀ body page, kind = .browse → outcome = .ok body → ResultPage.ofJson body = .ok page →
        after = q ∧ reaction.notice = none ∧
        ((∃ table, reaction.display = .table table) ↔ page.rows ≠ []) ∧
        (page.rows ≠ [] → reaction.display = .table
          { headers := q.fields
            rows := page.rows.map (Table.cells q.fields)
            place := page.place }) ∧
        (page.rows = [] → reaction.display = .noResults page.place))) ∧
    ∀ (s : Session) (ops : List Operation), (∀ op ∈ ops, op.Fails ∨ op = .browse) →
      (s.run ops).issueBrowse.answer.request = s.issueBrowse.answer.request := by
  refine ⟨fun kind outcome q => ?_, fun s ops quiet => request_run_of_failures quiet s⟩
  have lands := q.lands_land kind outcome
  intro reaction after
  have told (e : ServiceError) (fails : kind.Fails outcome e) : after = q ∧
      reaction.display = .error e.message ∧ reaction.notice = some (.alert e.message) := by
    obtain ⟨kept, shown⟩ := lands.of_fails fails
    exact ⟨kept, congrArg Reaction.display shown, congrArg Reaction.notice shown⟩
  refine ⟨lands.after_eq, ⟨fun shown => lands.fails_of_shown (.inl shown), ?_⟩,
    ⟨fun shown => lands.fails_of_shown (.inr shown), ?_⟩, told, ?_, ?_⟩
  · rintro ⟨e, fails⟩
    exact ⟨_, (told e fails).2.1⟩
  · rintro ⟨e, fails⟩
    exact ⟨_, (told e fails).2.2⟩
  · rintro body rfl rfl
    exact lands.of_exports
  · rintro body page rfl rfl read
    obtain ⟨kept, silent, filled, blank⟩ := lands.of_page read
    refine ⟨kept, silent, ⟨?_, fun rows => ⟨_, filled rows⟩⟩, filled, blank⟩
    rintro ⟨table, shown⟩ none
    have other : reaction.display = .noResults page.place := blank none
    rw [shown] at other
    cases other

/-- After an exchange that broke off and an answer that is no page, the third request is the first
one again. -/
theorem land_rollsBack_twice :
    let s := (start "s" {}).session
    let broken : Arrival := { ticket := 1, kind := .browse, outcome := .error (.network "reset") }
    let noPage : Arrival := { ticket := 2, kind := .browse, outcome := .ok .null }
    let ops := [.browse, .land broken, .browse, .land noPage]
    (s.run ops).issueBrowse.answer.ticket = 3 ∧
      (s.run ops).issueBrowse.answer.request = s.issueBrowse.answer.request := by
  intro s broken noPage ops
  refine ⟨rfl, land_rollsBack.2 s ops fun op mem => ?_⟩
  have breaks : (Operation.land broken).Fails := ⟨broken, _, rfl, .unanswered _ _⟩
  have unread : (Operation.land noPage).Fails := ⟨noPage, _, rfl, .noPage rfl⟩
  simp only [ops, List.mem_cons, List.not_mem_nil, or_false] at mem
  rcases mem with rfl | rfl | rfl | rfl
  · exact .inr rfl
  · exact .inl breaks
  · exact .inr rfl
  · exact .inl unread

end Session

end EntityQuery
