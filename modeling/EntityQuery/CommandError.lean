import EntityQuery.Files
import EntityQuery.Session.RoundTrip

/-!
# Command errors

Why a command of the shell or of the command line failed.

## Main Definitions

* `ShellUsage`: why a line is no command.
* `CommandError`: why a command failed, with its stable code and its wording.
-/

namespace EntityQuery

/-- Why a line is no command of the shell. -/
inductive ShellUsage where
  /-- An operand is missing; the usage of the command. -/
  | missing (usage : String)
  /-- Something else stands where the usage asks for a number or a word. -/
  | unexpected (usage raw : String)
  | unknownCommand (word : String)
deriving DecidableEq, Repr

/-- The wording of a refused line. -/
def ShellUsage.message : ShellUsage → String
  | .missing usage => usage
  | .unexpected usage raw => s!"{usage}, got '{raw}'"
  | .unknownCommand word => s!"unknown command '{word}'"

/-- Why a command failed. -/
inductive CommandError where
  | settings (error : SettingsError)
  | file (error : FileError)
  | usage (fault : ShellUsage)
  | query (error : QueryError)
  /-- There was no exchange with the service, or it failed. -/
  | request (reason : String)
deriving Repr

namespace CommandError

/-- The stable code of an error. -/
def code : CommandError → String
  | .settings _ => "DYNQ_CLI_CONFIG_ERROR"
  | .file _ => "DYNQ_CLI_IO_ERROR"
  | .usage _ => "DYNQ_CLI_USAGE_ERROR"
  | .query _ => "DYNQ_CLI_QUERY_ERROR"
  | .request _ => "DYNQ_CLI_REQUEST_FAILED"

/-- The wording of an error. -/
def message : CommandError → String
  | .settings e => e.message
  | .file e => e.message
  | .usage u => u.message
  | .query e => e.message
  | .request reason => reason

/-- Code and wording, as a program ends with them. -/
def text (e : CommandError) : String :=
  s!"{e.code}: {e.message}"

/-- The failure of a session operation as the failure of a command. -/
def ofSession : SessionError → CommandError
  | .noExport => .request SessionError.noExport.message
  | .service e => .request e.message
  | .query e => .query e

end CommandError

end EntityQuery
