import EntityQuery.Log.Severity
import EntityQuery.Json.Printer

/-!
# Log events

The events of a session, and the line of JSON that each is written as.

## Main Definitions

* `Log.Event`: what can happen.
* `Log.Entry`: an event with its fields.
* `Log.line`: one line of JSON, its fields sorted by key.
* `Log.Entry.written`: the line of an entry, or nothing below the minimum.

## Design Notes

An entry is data; the minimum severity decides only whether it is written.
The sort by key is stable, so fields with one key stay in their order.
-/

namespace EntityQuery.Log

/-- What can happen to a client. -/
inductive Event where
  | settingsLoaded
  | sessionStart
  | entityChanged
  | presetApplied
  | fetchBegin
  | fetchComplete
  | fetchFailed
  /-- A response was applied that is not the one in flight. -/
  | staleResponseApplied
  | exportReady
  /-- An export was answered without a file handle. -/
  | exportDiagnostic
  | downloadComplete
  | downloadFailed
deriving DecidableEq, Repr

namespace Event

/-- Every event. -/
def all : List Event :=
  [.settingsLoaded, .sessionStart, .entityChanged, .presetApplied, .fetchBegin, .fetchComplete,
    .fetchFailed, .staleResponseApplied, .exportReady, .exportDiagnostic, .downloadComplete,
    .downloadFailed]

/-- The name of an event. -/
def name : Event → String
  | .settingsLoaded => "CONFIG_LOADED"
  | .sessionStart => "SESSION_START"
  | .entityChanged => "ENTITY_CHANGED"
  | .presetApplied => "SAMPLE_APPLIED"
  | .fetchBegin => "FETCH_BEGIN"
  | .fetchComplete => "FETCH_COMPLETE"
  | .fetchFailed => "FETCH_FAILED"
  | .staleResponseApplied => "STALE_RESPONSE_APPLIED"
  | .exportReady => "EXPORT_READY"
  | .exportDiagnostic => "EXPORT_DIAGNOSTIC"
  | .downloadComplete => "DOWNLOAD_COMPLETE"
  | .downloadFailed => "DOWNLOAD_FAILED"

/-- The severity at which an event is logged. -/
def severity : Event → Severity
  | .fetchFailed => .error
  | .downloadFailed => .error
  | .staleResponseApplied => .warn
  | .exportDiagnostic => .warn
  | .fetchBegin => .trace
  | .settingsLoaded => .info
  | .sessionStart => .info
  | .entityChanged => .info
  | .presetApplied => .info
  | .fetchComplete => .info
  | .exportReady => .info
  | .downloadComplete => .info

end Event

/-- An event with its fields. -/
structure Entry where
  event : Event
  fields : List (String × String)
deriving DecidableEq, Repr

/-- The fields in the order of their keys; fields with one key keep their order. -/
def sortFields (fields : List (String × String)) : List (String × String) :=
  fields.mergeSort fun a b => a.1 ≤ b.1

/-- One field with the comma before it. -/
def fieldChars (field : String × String) : List Char :=
  ',' :: (Json.quoteChars field.1 ++ ':' :: Json.quoteChars field.2)

/-- The line of JSON for an event, its line end included. -/
def lineChars (severity : Severity) (event : String) (fields : List (String × String)) :
    List Char :=
  '\x7b' :: (Json.quoteChars "event" ++ ':' :: (Json.quoteChars event ++
    fieldChars ("severity", severity.name) ++ (sortFields fields).flatMap fieldChars ++
      ['\x7d', '\n']))

/-- The line of JSON for an event, as text. -/
def line (severity : Severity) (event : String) (fields : List (String × String)) : String :=
  String.ofList (lineChars severity event fields)

namespace Entry

/-- The severity of an entry. -/
def severity (e : Entry) : Severity :=
  e.event.severity

/-- The line of an entry. -/
def line (e : Entry) : String :=
  Log.line e.severity e.event.name e.fields

/-- The line of an entry, or nothing when it is below the minimum. -/
def written (minimum : Severity) (e : Entry) : String :=
  if minimum.reaches e.severity then e.line else ""

end Entry

end EntityQuery.Log
