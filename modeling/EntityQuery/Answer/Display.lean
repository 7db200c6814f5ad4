import EntityQuery.Answer.Export
import EntityQuery.Answer.Table

/-!
# Displays

What the result area shows, and the messages that go with an answer.

## Main Definitions

* `Display`: what the result area shows.
* `Notice`: a message for the user.
-/

namespace EntityQuery

/-- What the result area shows. -/
inductive Display where
  /-- Nothing has been asked for. -/
  | idle
  /-- A request was issued and no answer applied since. -/
  | loading
  | table (t : Table)
  /-- The page has no rows. -/
  | noResults (place : PagePlace)
  | exportFinished
  /-- The exchange failed; nothing partial is kept. -/
  | error (message : String)
deriving DecidableEq, Repr

namespace Display

/-- Whether a failure is shown. -/
def showsFailure : Display → Bool
  | .error _ => true
  | _ => false

/-- The number of rows that are shown. -/
def rowCount : Display → Nat
  | .table t => t.rows.length
  | _ => 0

/-- The text of a display. -/
def text : Display → String
  | .idle => ""
  | .loading => "Loading..."
  | .table t => t.text
  | .noResults place => s!"No results\n{place.banner}"
  | .exportFinished => "Export finished"
  | .error _ => "Error fetching data"

end Display

/-- A message for the user that goes with one answer. -/
inductive Notice where
  /-- The exported file can be fetched. -/
  | exportReady (handle : ExportHandle)
  /-- An export was answered without a handle; the body as JSON text. -/
  | exportDiagnostic (body : String)
  /-- The exchange failed. -/
  | alert (message : String)
deriving DecidableEq, Repr

namespace Notice

/-- The wording of a notice. -/
def message : Notice → String
  | .exportReady handle => s!"Export ready: {handle.path}\nRun download to fetch the file."
  | .exportDiagnostic body => s!"Export response: {body}"
  | .alert message => s!"Error: {message}"

end Notice

end EntityQuery
