import EntityQuery.Host
import EntityQuery.Shell.Command

/-!
# The shell

A session driven by lines of input, one command a line.

## Main Definitions

* `Shell.perform`: one command.
* `Shell.performLine`: one line, whose error is printed.
* `Shell.run`: all lines, up to the first that ends the shell.

## Design Notes

The error of a line is printed and the shell goes on.  Only a line that is not
text ends the shell with an error.
-/

namespace EntityQuery.Shell

variable {m : Type → Type} [Monad m] (host : Host m) (service : Service m)

/-- Prints the display and the notice of a landed answer. -/
def printResult (notice : Option Notice) (s : Session) : m Unit := do
  let text := s.display.text
  if !text.isEmpty then host.print text
  match notice with
  | some notice => host.print notice.message
  | none => pure ()

/-- Fetches the exported file and saves it; the answer is where it went. -/
def saveExport (path : String) (s : Session) : m (Except CommandError String) := do
  match ← s.fetchFile service host.log with
  | .error e => pure (.error (.ofSession e))
  | .ok file => return (← host.save file path).mapError .file

/-- The outcome of one command: an error, or whether the shell goes on. -/
abbrev Verdict := Except CommandError Bool

/-- Prints lines, after which the shell goes on. -/
def printLines (lines : List String) (s : Session) : m (Verdict × Session) := do
  lines.forM host.print
  pure (.ok true, s)

/-- Performs one command. -/
def perform (command : Command) (s : Session) : m (Verdict × Session) := do
  match command with
  | .edit e =>
    let (answer, query) := e.apply s.catalog s.query
    let verdict : Verdict := match answer with
      | .ok _ => .ok true
      | .error e => .error (.query e)
    pure (verdict, { s with query })
  | .entity name =>
    let step := s.changeEntity name
    host.log step.events
    printLines host ["Fields: " ++ ", ".intercalate step.session.query.fields] step.session
  | .addSort =>
    let step := s.addSort
    printLines host [s!"Added sort #{step.answer}"] step.session
  | .distinct value =>
    let distinct := value.getD !s.query.distinct
    printLines host [s!"Distinct: {distinct}"] { s with query := { s.query with distinct } }
  | .preset preset =>
    let step := s.applyPreset preset
    host.log step.events
    match step.answer with
    | .error e => pure (.error (.query e), step.session)
    | .ok () => printLines host [preset.title] step.session
  | .request => printLines host [s.query.request.wire.pretty] s
  | .filters => printLines host (s.query.filters.criteria.lines ++ s.query.sorts.lines) s
  | .fetch =>
    let (notice, s) ← s.browse service host.log
    printResult host notice s
    pure (.ok true, s)
  | .exports size =>
    let (answer, s) ← s.requestExport service host.log size
    match answer with
    | .error e => pure (.error (.ofSession e), s)
    | .ok notice =>
      printResult host notice s
      pure (.ok true, s)
  | .download path =>
    match ← saveExport host service (path.getD ".") s with
    | .error e => pure (.error e, s)
    | .ok target => printLines host [s!"Saved {target}"] s
  | .help => printLines host [help] s
  | .quit => pure (.ok false, s)

/-- How far a shell has come. -/
structure Progress where
  session : Session
  /-- How the shell ended, if it has. -/
  ended : Option (Except CommandError Unit)

/-- Whether the shell has ended. -/
def Progress.isFinal (p : Progress) : Bool :=
  p.ended.isSome

/-- Performs the command of a line of text; an error is printed. -/
def performText (line : String) (p : Progress) : m Progress := do
  match Command.parse line with
  | .error e =>
    host.print e.message
    pure p
  | .ok none => pure p
  | .ok (some command) =>
    let (verdict, session) ← perform host service command p.session
    match verdict with
    | .ok true => pure { p with session }
    | .ok false => pure { session, ended := some (.ok ()) }
    | .error e =>
      host.print e.message
      pure { p with session }

/-- Performs a line; one that is not text ends the shell. -/
def performLine (line : List UInt8) (p : Progress) : m Progress := do
  match Text.decode? line with
  | none => pure { p with ended := some (.error (.file .notUtf8)) }
  | some line => performText host service (String.ofList line) p

/-- Greets, then runs the lines of input. -/
def run (s : Session) : m (Except CommandError Unit × Session) := do
  host.print s!"dynquery shell, session {s.id}. Type 'help' for commands."
  let p ← host.feed Progress.isFinal (performLine host service) { session := s, ended := none }
  pure (p.ended.getD (.ok ()), p.session)

end EntityQuery.Shell
