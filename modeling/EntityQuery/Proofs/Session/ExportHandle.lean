import EntityQuery.Proofs.Query.Frame
import EntityQuery.Proofs.Query.Preset
import EntityQuery.Proofs.Session.Run

/-!
# The handle of the last export

A session remembers the handle of the export that was answered last, and hands
it back as it is.

## Main Definitions

* `Operation.handle?`: the handle that an operation leaves.
* `Session.IssuesExport`: the tickets under which a run issues exports.
* `Operation.Leaves`: how a handle comes to be left, by what was issued.

## Main Statements

* `Operation.lastExport_apply`: an operation leaves its handle, or none and then
  the session keeps the one that it had.
* `Session.Genuine.kind_eq_exports_iff`: an answer is read as that of an export
  exactly if it is one.
* `Session.lastExport_run`: the handle after a run, and the file fetched for it.

## Design Notes

How an answer is read is settled when its request is issued.  The export flag of
the query at the time of landing plays no part.
-/

namespace EntityQuery

/-- The handle in a body is its member `file`, a string other than the empty one. -/
theorem ExportAnswer.handle?_eq_some_iff {body : Json} {h : ExportHandle} :
    handle? body = some h ↔ body.member? "file" = some (.string h.path) ∧ h.path ≠ "" := by
  rw [handle?]
  cases named : body.member? "file" with
  | none => simp
  | some v =>
    cases v with
    | string file =>
      simp only [Option.bind_some, Json.asString?, Option.some.injEq, Json.string.injEq]
      by_cases blank : file = ""
      · rw [if_pos blank]
        simp only [reduceCtorEq, false_iff, not_and, not_not]
        rintro rfl
        exact blank
      · rw [if_neg blank, Option.some.injEq]
        constructor
        · rintro rfl
          exact ⟨rfl, blank⟩
        · rintro ⟨rfl, -⟩
          rfl
    | _ => simp [Json.asString?]

/-! ## Edits -/

/-- Presets keep the handle, also one that is refused. -/
theorem Preset.lastExport_apply (p : Preset) (q : Query) :
    (p.apply q).2.lastExport = q.lastExport := by
  obtain ⟨_, _, _, _, _, _, after, -⟩ := p.exists_apply_snd_eq q
  rw [after]
  rfl

namespace Edit

/-- The handle that an edit leaves. -/
def handle? : Edit → Option ExportHandle
  | .keepHandle h => some h
  | _ => none

/-- Every edit but the one that leaves a handle keeps the one that there is. -/
theorem lastExport_apply (catalog : Catalog) (edit : Edit) (q : Query) :
    (edit.apply catalog q).2.lastExport = edit.handle?.or q.lastExport := by
  have kept := edit.apply_of_isPlain catalog q
  cases edit with
  | preset p => exact p.lastExport_apply q
  | entity | project | select | deselect | keepHandle => rfl
  | _ =>
    obtain ⟨_, _, _, _, _, _, _, after⟩ := kept trivial
    rw [after]
    rfl

end Edit

/-! ## Operations -/

namespace Operation

/-- The handle that an operation leaves: one that is kept outright, or that of an export. -/
def handle? : Operation → Option ExportHandle
  | .edit e => e.handle?
  | .land { kind := .exports, outcome := .ok body, .. } => ExportAnswer.handle? body
  | _ => none

variable {op : Operation} {s : Session}

/-- An operation leaves its handle, or none and then the session keeps the one that it had. -/
theorem lastExport_apply (op : Operation) (s : Session) :
    (op.apply s).query.lastExport = op.handle?.or s.query.lastExport := by
  cases op with
  | edit e => exact e.lastExport_apply s.catalog s.query
  | preset p =>
    rw [apply, Session.applyPreset_session]
    exact p.lastExport_apply s.query
  | exports size =>
    by_cases zero : size.getD s.settings.exportPageSize = 0
    · rw [apply, Session.issueExport_of_eq_zero zero]
      rfl
    · rw [apply, Session.issueExport_of_ne_zero zero]
      rfl
  | land a =>
    obtain ⟨ticket, kind, outcome⟩ := a
    change (s.query.land kind outcome).2.lastExport = _
    rw [Query.land_snd]
    cases kind with
    | exports => cases outcome <;> rfl
    | browse => rfl
  | _ => rfl

theorem handle?_eq_some_iff {h : ExportHandle} :
    op.handle? = some h ↔ op = .edit (.keepHandle h) ∨
      ∃ a body, op = .land a ∧ a.kind = .exports ∧ a.outcome = .ok body ∧
        body.member? "file" = some (.string h.path) ∧ h.path ≠ "" := by
  constructor
  · intro leaves
    cases op with
    | edit e =>
      cases e with
      | keepHandle h' =>
        cases leaves
        exact .inl rfl
      | _ => cases leaves
    | land a =>
      obtain ⟨ticket, kind, outcome⟩ := a
      cases kind with
      | exports =>
        cases outcome with
        | ok body =>
          exact .inr ⟨_, body, rfl, rfl, rfl, ExportAnswer.handle?_eq_some_iff.mp leaves⟩
        | error e => cases leaves
      | browse => cases leaves
    | _ => cases leaves
  · rintro (rfl | ⟨⟨ticket, kind, outcome⟩, body, rfl, rfl, rfl, named⟩)
    · rfl
    · exact ExportAnswer.handle?_eq_some_iff.mpr named

/-- The kind of a request tells whether an export was asked for. -/
theorem kind_of_issued {r : IssuedRequest} (issued : op.issued? s = some r) :
    r.kind = .exports ↔ ∃ size, op = .exports size := by
  obtain ⟨query, asked, rfl, -⟩ := apply_of_issued issued
  rcases asked with ⟨rfl, rfl⟩ | ⟨size, rfl, rfl⟩
  · constructor
    · intro kind
      cases kind
    · rintro ⟨size, browses⟩
      cases browses
  · exact ⟨fun _ => ⟨size, rfl⟩, fun _ => rfl⟩

/-- A handle is kept outright, or named by the answer to an export that was issued. -/
def Leaves (exported : Ticket → Prop) (op : Operation) (h : ExportHandle) : Prop :=
  op = .edit (.keepHandle h) ∨
    ∃ a body, op = .land a ∧ exported a.ticket ∧ a.outcome = .ok body ∧
      body.member? "file" = some (.string h.path) ∧ h.path ≠ ""

end Operation

/-! ## Runs -/

namespace Session

/-- A run issues an export under a ticket. -/
def IssuesExport (s : Session) (ops : List Operation) (ticket : Ticket) : Prop :=
  ∃ t ∈ s.turns ops, ∃ size r,
    t.operation = .exports size ∧ t.issued? = some r ∧ r.ticket = ticket

variable {s : Session} {ops : List Operation}

/-- An answer is read as that of an export exactly if it is one: the kind that it carries was
settled when its request was issued, and no other request has its ticket. -/
theorem Genuine.kind_eq_exports_iff (genuine : s.Genuine ops) {t : Turn}
    (mem : t ∈ s.turns ops) {a : Arrival} (lands : t.operation = .land a) :
    a.kind = .exports ↔ s.IssuesExport ops a.ticket := by
  obtain ⟨earlier, later, split⟩ := List.append_of_mem mem
  obtain ⟨t', before, r, outcome, issued, rfl⟩ := genuine _ _ _ split a lands
  have mem' : t' ∈ s.turns ops := by
    rw [split]
    exact List.mem_append_left _ before
  constructor
  · intro kind
    obtain ⟨size, exports⟩ := (Operation.kind_of_issued issued).mp kind
    exact ⟨t', mem', size, r, exports, issued, rfl⟩
  · rintro ⟨t'', mem'', size, r', exports, issued', tickets⟩
    cases eq_of_ticket_eq mem'' issued' mem' issued tickets
    exact (Operation.kind_of_issued issued').mpr ⟨size, exports⟩

theorem Genuine.leaves_iff (genuine : s.Genuine ops) {t : Turn} (mem : t ∈ s.turns ops)
    {h : ExportHandle} :
    t.operation.Leaves (s.IssuesExport ops) h ↔ t.operation.handle? = some h := by
  rw [Operation.Leaves, Operation.handle?_eq_some_iff]
  refine or_congr_right (exists_congr fun a => exists_congr fun body => ?_)
  refine and_congr_right fun lands => and_congr_left fun _ => ?_
  exact (genuine.kind_eq_exports_iff mem lands).symm

theorem Genuine.not_leaves_iff (genuine : s.Genuine ops) {t : Turn} (mem : t ∈ s.turns ops) :
    (∀ h, ¬t.operation.Leaves (s.IssuesExport ops) h) ↔ t.operation.handle? = none := by
  rw [Option.eq_none_iff_forall_ne_some]
  exact forall_congr' fun h => not_congr (genuine.leaves_iff mem)

/-- After a run, the session has the handle that was left last. -/
theorem lastExport_run_eq (s : Session) (ops : List Operation) :
    (s.run ops).query.lastExport =
      (((s.turns ops).filterMap (·.operation.handle?)).getLast?).or s.query.lastExport := by
  have step (t : Turn) : t.after.query.lastExport =
      (t.operation.handle?.map some).getD t.before.query.lastExport := by
    rw [Turn.after, Operation.lastExport_apply]
    cases t.operation.handle? <;> rfl
  rw [view_run (·.query.lastExport) step, ← List.map_filterMap, List.getLast?_map]
  cases ((s.turns ops).filterMap (·.operation.handle?)).getLast? <;> rfl

/-- The handle of a session is the one left last in its run: kept outright, or named by the answer
to an export that the run has issued.  Nothing else changes it, and its file is what is fetched. -/
theorem lastExport_run {id : String} {settings : Settings}
    (genuine : (start id settings).session.Genuine ops) :
    let s := (start id settings).session
    let after := s.run ops
    let exported := s.IssuesExport ops
    (∀ h, after.query.lastExport = some h ↔ ∃ earlier t later,
      s.turns ops = earlier ++ t :: later ∧ t.operation.Leaves exported h ∧
        ∀ t' ∈ later, ∀ h', ¬t'.operation.Leaves exported h') ∧
    (after.query.lastExport = none ↔ ∀ t ∈ s.turns ops, ∀ h, ¬t.operation.Leaves exported h) ∧
    (∀ t ∈ s.turns ops, (∀ h, ¬t.operation.Leaves exported h) →
      t.after.query.lastExport = t.before.query.lastExport) ∧
    (∀ {m : Type → Type} [Monad m] (service : Service m) (log : List Log.Entry → m Unit),
      (after.query.lastExport = none → after.fetchFile service log = pure (.error .noExport)) ∧
      ∀ h, after.query.lastExport = some h → after.fetchFile service log = (do
        let outcome ← service.file h
        log [fileEntry h outcome]
        pure (outcome.mapError .service))) := by
  intro s after exported
  have last : after.query.lastExport =
      ((s.turns ops).filterMap (·.operation.handle?)).getLast? := by
    rw [lastExport_run_eq]
    exact Option.or_none
  refine ⟨fun h => ?_, ?_, fun t mem silent => ?_, fun service log => ⟨fun none => ?_, ?_⟩⟩
  · rw [last, Turn.getLast?_filterMap_eq_some_iff]
    refine exists_congr fun earlier => exists_congr fun t => exists_congr fun later => ?_
    refine and_congr_right fun split => ?_
    have within : ∀ t' ∈ t :: later, t' ∈ s.turns ops := by
      intro t' mem
      rw [split]
      exact List.mem_append_right _ mem
    rw [genuine.leaves_iff (within t List.mem_cons_self)]
    refine and_congr_right fun _ => forall₂_congr fun t' mem => ?_
    exact (genuine.not_leaves_iff (within t' (List.mem_cons_of_mem _ mem))).symm
  · rw [last, List.getLast?_eq_none_iff, List.filterMap_eq_nil_iff]
    exact forall₂_congr fun t mem => (genuine.not_leaves_iff mem).symm
  · rw [Turn.after, Operation.lastExport_apply, (genuine.not_leaves_iff mem).mp silent]
    exact Option.none_or
  · rw [fetchFile, none]
  · intro h some
    rw [fetchFile, some]

/-- A page that carries a file lands after the answer to an export, and leaves no handle. -/
theorem lastExport_run_of_overlap :
    let page : Arrival :=
      { ticket := 2, kind := .browse, outcome := .ok (.object [("file", .string "page.csv")]) }
    let answer : Arrival :=
      { ticket := 1, kind := .exports, outcome := .ok (.object [("file", .string "all.csv")]) }
    let s := (start "s" {}).session
    let ops := [.exports none, .browse, .land answer, .edit (.exports true), .land page]
    s.Genuine ops ∧ (s.run ops).query.lastExport = some ⟨"all.csv"⟩ := by
  intro page answer s ops
  have asked : s.Genuine [.exports none, .browse] :=
    ((genuine_nil s).concat (.exports none) nofun).concat .browse nofun
  have answered : s.Genuine [.exports none, .browse, .land answer] := by
    refine asked.concat (.land answer) ?_
    rintro _ ⟨rfl⟩
    exact ⟨_, List.mem_cons_self, _, _, rfl, rfl⟩
  have genuine : s.Genuine ops := by
    refine (answered.concat (.edit (.exports true)) nofun).concat (.land page) ?_
    rintro _ ⟨rfl⟩
    exact ⟨_, List.mem_cons_of_mem _ List.mem_cons_self, _, _, rfl, rfl⟩
  refine ⟨genuine, ((lastExport_run genuine).1 ⟨"all.csv"⟩).mpr ?_⟩
  refine ⟨s.turns [.exports none, .browse], _, _, rfl, .inr ⟨answer, _, rfl, ?_, rfl, rfl, ?_⟩, ?_⟩
  · exact ⟨_, List.mem_cons_self, none, _, rfl, rfl, rfl⟩
  · decide
  · intro t mem
    have within : t ∈ s.turns ops :=
      List.mem_append_right (s.turns [.exports none, .browse]) (List.mem_cons_of_mem _ mem)
    refine (genuine.not_leaves_iff within).mpr ?_
    rcases List.mem_cons.mp mem with rfl | mem
    · rfl
    · cases List.mem_singleton.mp mem
      rfl

end Session

end EntityQuery
