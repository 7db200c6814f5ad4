import EntityQuery.CommandError
import EntityQuery.Http.Service

/-!
# Hosts

What a program uses of the machine on which it runs.

## Main Definitions

* `Host`: output, log, files, lines of input and HTTP exchanges, in some monad.
* `Host.readSettings`: the settings in a file.
* `Host.save`: an exported file written to the disk.
-/

namespace EntityQuery

/-- What a program uses of the machine on which it runs. -/
structure Host (m : Type → Type) where
  /-- Prints a line. -/
  print : String → m Unit
  /-- Prints a line among the errors. -/
  printError : String → m Unit
  /-- Logs events; those below the minimum are dropped. -/
  log : List Log.Entry → m Unit
  /-- Sets the least severity that is logged. -/
  setMinimum : Log.Severity → m Unit
  /-- Whether a path names a directory. -/
  isDirectory : String → m Bool
  /-- Whether a path names anything. -/
  contains : String → m Bool
  /-- The content of a file. -/
  read : String → m (Except FileError (List UInt8))
  /-- Writes a file, over one that is there. -/
  write : String → List UInt8 → m (Except FileError Unit)
  /-- Feeds the lines of input to a step until the state is final or no line is left. -/
  feed : {σ : Type} → (isFinal : σ → Bool) → (step : List UInt8 → σ → m σ) → σ → m σ
  /-- A name for a new session. -/
  newId : m String
  /-- Sends a request. -/
  exchange : Http.Exchange m

namespace Host

variable {m : Type → Type} [Monad m] (host : Host m)

/-- The settings in the file at a path. -/
def readSettings (path : String) : m (Except SettingsError Settings) := do
  match ← host.read path with
  | .error e => pure (.error (.unreadable path e.message))
  | .ok bytes =>
    match Text.decode? bytes with
    | none => pure (.error (.unreadable path FileError.notUtf8.message))
    | some text =>
      match Settings.ofText (String.ofList text) with
      | .error e => pure (.error e)
      | .ok settings =>
        host.log [settings.loadedEntry path]
        pure (.ok settings)

/-- The settings at a path; a path that nobody asked for may be absent. -/
def readSettingsOrDefault (path : String) (explicit : Bool) :
    m (Except SettingsError Settings) := do
  if explicit then host.readSettings path
  else if ← host.contains path then host.readSettings path
  else pure (.ok {})

/-- Writes an exported file to a path, under its own name if that is a directory;
the answer is where it went. -/
def save (file : ExportedFile) (path : String) : m (Except FileError String) := do
  let target := if ← host.isDirectory path then joinPath path file.name else path
  return (← host.write target file.bytes).map fun _ => target

end Host

end EntityQuery
