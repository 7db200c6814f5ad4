import EntityQuery.Proofs.Except
import EntityQuery.Proofs.Query.Refused
import EntityQuery.Proofs.Session.Action
import EntityQuery.Shell.Run

/-!
# Effects of commands

What a command of the shell does to the session, apart from what it prints: it
is one operation at most, and then the landing of the answer if that operation
issues a request.

## Main Definitions

* `Shell.Command.operation?`: the operation that a command stands for.
* `Shell.Command.arrival?`: the answer that it gets, if it issues a request.
* `Shell.Command.effect`: the session after it, by that answer.
* `Shell.Command.verdict`: whether it is accepted.

## Main Statements

* `Shell.perform_eq`: what performing a command answers and does to the session.
* `Shell.effect_of_refused`: a command that is refused has no effect.

## Design Notes

A shell runs in a state monad over an arbitrary world.  Whatever the service
answers, the disk does or the log holds is in that world, so the answer of a
command is a function of the session and the world before it.
-/

namespace EntityQuery.Shell

namespace Command

/-- The operation on the session that a command stands for, if there is one. -/
def operation? (c : Command) (s : Session) : Option Operation :=
  match c with
  | .edit e => some (.edit e)
  | .entity name => some (.changeEntity name)
  | .addSort => some .addSort
  | .distinct value => some (.edit (.distinct (value.getD !s.query.distinct)))
  | .preset p => some (.preset p)
  | .fetch => some .browse
  | .exports size => some (.exports size)
  | .request | .filters | .download _ | .help | .quit => none

/-- The session after a command, by the answer to the request that it issues. -/
def effect (c : Command) (answer : Option Arrival) (s : Session) : Session :=
  s.run ((c.operation? s).toList ++ (answer.map .land).toList)

variable {σ : Type} (host : Host (StateM σ)) (service : Service (StateM σ))

/-- The answer that a command gets to the request that it issues, if it issues one.  The service
is asked after the events of the operation are logged. -/
def arrival? (c : Command) (s : Session) (w : σ) : Option Arrival := do
  let op ← c.operation? s
  let r ← op.issued? s
  pure (Session.send service r (host.log (op.step s).events w).2).1

/-- Whether a command is accepted, and then whether the shell goes on. -/
def verdict (c : Command) (s : Session) (w : σ) : Verdict :=
  match c with
  | .edit e => ((e.apply s.catalog s.query).1.mapError .query).map fun _ => true
  | .preset p => ((s.applyPreset p).answer.mapError .query).map fun _ => true
  | .exports size => ((s.issueExport size).answer.mapError (.ofSession ∘ .query)).map fun _ => true
  | .download path => (saveExport host service (path.getD ".") s w).1.map fun _ => true
  | .quit => .ok false
  | _ => .ok true

end Command

variable {σ : Type} {host : Host (StateM σ)} {service : Service (StateM σ)}
variable {c : Command} {s : Session} {w : σ}

/-! ## What is performed -/

/-- Of two computations in a row, the second goes on in the world that the first leaves. -/
theorem bind_apply {α β : Type} (x : StateM σ α) (f : α → StateM σ β) (w : σ) :
    (x >>= f) w = f (x w).1 (x w).2 := rfl

/-- An export that cannot be issued asks nothing of the service. -/
theorem Command.arrival?_exports_of_error {size : Option UInt32} {e : QueryError}
    (refused : (s.issueExport size).answer = .error e) :
    (Command.exports size).arrival? host service s w = none := by
  show (s.issueExport size).answer.toOption >>= _ = none
  rw [refused]
  rfl

/-- An export that is issued is sent. -/
theorem Command.arrival?_exports_of_ok {size : Option UInt32} {r : IssuedRequest}
    (issued : (s.issueExport size).answer = .ok r) :
    (Command.exports size).arrival? host service s w =
      some (Session.send service r (host.log (s.issueExport size).events w).2).1 := by
  show (s.issueExport size).answer.toOption >>= _ = _
  rw [issued]
  rfl

/-- Performing a command answers its verdict and has its effect on the session, and no other. -/
theorem perform_eq (c : Command) (s : Session) (w : σ) :
    (perform host service c s w).1 =
      (c.verdict host service s w, c.effect (c.arrival? host service s w) s) := by
  cases c with
  | edit e =>
    simp only [perform, Command.verdict]
    cases (e.apply s.catalog s.query).1 <;> rfl
  | preset p =>
    simp only [perform, Command.verdict]
    cases (s.applyPreset p).answer <;> rfl
  | exports size =>
    cases answer : (s.issueExport size).answer with
    | error e =>
      rw [Command.arrival?_exports_of_error answer]
      simp only [perform, Command.verdict, Session.requestExport_eq, answer]
      rfl
    | ok r =>
      rw [Command.arrival?_exports_of_ok answer]
      simp only [perform, Command.verdict, Session.requestExport_eq, answer]
      rfl
  | download path =>
    simp only [perform, Command.verdict, bind_apply]
    cases (saveExport host service (path.getD ".") s w).1 <;> rfl
  | _ => rfl

/-! ## What is refused -/

/-- A command that is refused has no effect, as long as there may be subqueries. -/
theorem effect_of_refused {e : CommandError} (allows : s.query.filters.maxDepth ≠ 0)
    (refused : c.verdict host service s w = .error e) :
    c.effect (c.arrival? host service s w) s = s := by
  cases c with
  | edit edit =>
    show { s with query := (edit.apply s.catalog s.query).2 } = s
    cases answer : (edit.apply s.catalog s.query).1 with
    | error e => rw [Edit.apply_of_refused allows answer]
    | ok a =>
      rw [Command.verdict, answer] at refused
      cases refused
  | preset p =>
    rw [Command.verdict, Session.applyPreset_answer, p.apply_fst allows] at refused
    cases refused
  | exports size =>
    by_cases zero : size.getD s.settings.exportPageSize = 0
    · have refusal := Session.issueExport_of_eq_zero zero
      rw [Command.arrival?_exports_of_error (congrArg (·.answer) refusal)]
      exact congrArg (·.session) refusal
    · rw [Command.verdict, Session.issueExport_of_ne_zero zero] at refused
      cases refused
  | download path => rfl
  | _ => cases refused

/-- Only the command that ends the shell stops it. -/
theorem eq_quit_of_verdict (stops : c.verdict host service s w = .ok false) : c = .quit := by
  cases c with
  | quit => rfl
  | edit | preset | exports | download =>
    obtain ⟨_, -, goesOn⟩ := Except.map_eq_ok_iff.mp stops
    cases goesOn
  | _ => cases stops

end EntityQuery.Shell
