import EntityQuery.Text.Split

/-!
# Severities

The weight of a log event, and the least weight that is written.
-/

namespace EntityQuery.Log

/-- The weight of an event, in increasing order. -/
inductive Severity where
  /-- Detail of requests and responses. -/
  | trace
  /-- Normal activity. -/
  | info
  /-- What goes on in spite of a fault. -/
  | warn
  /-- Failed fetches and downloads. -/
  | error
deriving DecidableEq, Repr

namespace Severity

/-- The name of a severity. -/
def name : Severity → String
  | .trace => "TRACE"
  | .info => "INFO"
  | .warn => "WARN"
  | .error => "ERROR"

/-- The place of a severity in the order. -/
def rank : Severity → Nat
  | .trace => 0
  | .info => 1
  | .warn => 2
  | .error => 3

/-- Whether an event of this severity is written when `minimum` is the least one written. -/
def reaches (minimum s : Severity) : Bool :=
  minimum.rank ≤ s.rank

/-- The severity of a name in any letter case; failing that, the name in upper case. -/
def ofName (raw : String) : Except String Severity :=
  let upper := Text.upperAscii raw
  if upper = "TRACE" then .ok .trace
  else if upper = "INFO" then .ok .info
  else if upper = "WARN" then .ok .warn
  else if upper = "ERROR" then .ok .error
  else .error upper

/-- The wording for a name that is no severity, given in upper case. -/
def unknownMessage (upper : String) : String :=
  s!"unknown log level '{upper}'"

end Severity

end EntityQuery.Log
