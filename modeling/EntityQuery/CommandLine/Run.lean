import EntityQuery.CommandLine.Usage
import EntityQuery.Shell.Run

/-!
# Running commands

What each command of the command line does on a host.

## Main Definitions

* `CommandLine.openSession`: a session with the service of its settings.
* `CommandLine.perform`: one command in a session.
* `CommandLine.run`: settings, session and command.

## Design Notes

Tables and texts go to the output, the text of a failed display to the errors.
A failed exchange is the failure of the whole command.
-/

namespace EntityQuery.CommandLine

/-- The settings that are read when none are named, if they are there. -/
def settingsPath : String :=
  "./dynquery.json"

variable {m : Type → Type} [Monad m] (host : Host m)

/-- The actions of a command, of which the first failure is the failure. -/
abbrev Action (m : Type → Type) := ExceptT CommandError m

/-- Prints a line. -/
def printLine (line : String) : Action m Unit :=
  ExceptT.lift (host.print line)

/-- Applies flags to a session. -/
def applyFlags (query : QueryFlags) (s : Session) : Action m Session := do
  let step := query.apply s
  ExceptT.lift (host.log step.events)
  match step.answer with
  | .ok () => pure step.session
  | .error e => throw e

/-- Prints what a display shows. -/
def printDisplay (display : Display) : m Unit := do
  let text := display.text
  if text.isEmpty then pure ()
  else if display.showsFailure then host.printError text
  else host.print text

/-- Prints display and notice; a failed exchange is a failure. -/
def printResult (notice : Option Notice) (s : Session) : Action m Unit := do
  ExceptT.lift (printDisplay host s.display)
  match notice with
  | some (.alert message) => throw (.request message)
  | some notice => printLine host notice.message
  | none => pure ()

/-- Fetches one page and prints it. -/
def browse (service : Service m) (s : Session) : Action m Unit := do
  let (notice, s) ← ExceptT.lift (s.browse service host.log)
  printResult host notice s

/-- Requests an export, and saves the file if a place is given. -/
def exportRows (service : Service m) (size : Option UInt32) (out : Option String)
    (s : Session) : Action m Unit := do
  let (answer, s) ← ExceptT.lift (s.requestExport service host.log size)
  match answer with
  | .error e => throw (.ofSession e)
  | .ok notice =>
    printResult host notice s
    match out with
    | none => pure ()
    | some path =>
      let target ← ExceptT.mk (Shell.saveExport host service path s)
      printLine host s!"Saved {target}"

/-- Applies a preset and fetches its first page. -/
def browsePreset (service : Service m) (number : String) (s : Session) : Action m Unit := do
  match Preset.ofNumber number with
  | .error e => throw (.query e)
  | .ok preset =>
    let step := s.applyPreset preset
    ExceptT.lift (host.log step.events)
    match step.answer with
    | .error e => throw (.query e)
    | .ok () =>
      printLine host preset.title
      browse host service step.session

/-- Performs a command in a session. -/
def perform (service : Service m) (command : Command) (s : Session) : Action m Unit := do
  match command with
  | .fetch query =>
    let s ← applyFlags host query s
    browse host service s
  | .exports query out =>
    let s ← applyFlags host query s
    exportRows host service query.size out s
  | .payload query =>
    let s ← applyFlags host query s
    printLine host s.query.request.toJson.pretty
  | .sample number => browsePreset host service number s
  | .shell =>
    let (answer, _) ← ExceptT.lift (Shell.run host service s)
    match answer with
    | .ok () => pure ()
    | .error e => throw e

/-- A new session, with the service behind the endpoints of its settings. -/
def openSession (settings : Settings) : Action m (Service m × Session) := do
  match settings.check with
  | .error e => throw (.settings e)
  | .ok () =>
    match Http.Endpoints.ofSettings settings with
    | .error e => throw (.request e.message)
    | .ok endpoints =>
      let step := Session.start (← ExceptT.lift host.newId) settings
      ExceptT.lift (host.log step.events)
      pure (Http.service endpoints host.exchange, step.session)

/-- The settings that a command line names, or the default. -/
def chooseSettings (path : Option String) : Action m Settings := do
  let loaded ← ExceptT.lift
    (host.readSettingsOrDefault (path.getD settingsPath) path.isSome)
  match loaded with
  | .error e => throw (.settings e)
  | .ok settings => pure settings

/-- Runs a command line. -/
def run (arguments : Arguments) : m (Except CommandError Unit) := ExceptT.run do
  let settings ← chooseSettings host arguments.settings
  match settings.minimum with
  | .error e => throw (.settings e)
  | .ok minimum => ExceptT.lift (host.setMinimum minimum)
  let (service, s) ← openSession host settings
  perform host service arguments.command s

/-- Runs the program on its words, and answers the status with which it ends. -/
def runProgram (words : Except ArgumentError Arguments) : m Nat := do
  match words with
  | .error e =>
    match e with
    | .help command =>
      host.print (helpText command)
      pure 0
    | .version =>
      host.print versionText
      pure 0
    | .nothing =>
      host.printError (helpText none)
      pure 2
    | e =>
      host.printError e.message
      pure 2
  | .ok arguments =>
    match ← run host arguments with
    | .ok () => pure 0
    | .error e =>
      host.printError e.text
      pure 1

end EntityQuery.CommandLine
