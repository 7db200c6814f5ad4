import EntityQuery.Answer.Landing
import EntityQuery.Query.Preset

/-!
# Sessions

One user's query, what the result area shows, and the request in flight.

## Main Definitions

* `Session`: the query with its display and the slot for a request.
* `Session.start`: a new session.
* `Session.issueBrowse`, `Session.issueExport`: issue a request.
* `Session.land`: apply the answer to a request.
* `Session.Step`: what an operation answers, the session after it, and the
  events that it logs.

## Design Notes

Issuing a request takes a snapshot of the query and occupies the slot; a later
request simply replaces an earlier one there.  Every arrival is applied when it
lands, so the last to land owns the display.  One whose ticket is not in the
slot is applied all the same and logged as stale.

Operations are functions on the session: they answer the events that they log
and leave the writing of them to whoever runs the session.
-/

namespace EntityQuery

/-- The number of an issued request, counted from one. -/
abbrev Ticket := Nat

/-- A request that has been issued, with the snapshot of the query. -/
structure IssuedRequest where
  ticket : Ticket
  kind : RequestKind
  request : PageRequest
deriving BEq

/-- The outcome of a request that has been sent. -/
structure Arrival where
  ticket : Ticket
  kind : RequestKind
  outcome : Outcome

/-- A query with its display and the slot for a request. -/
structure Session where
  /-- The name of the session in the log. -/
  id : String
  settings : Settings
  catalog : Catalog
  query : Query
  display : Display
  /-- The ticket of the latest request, while it awaits its answer. -/
  inFlight : Option Ticket
  nextTicket : Ticket

namespace Session

/-- What an operation answers, the session after it, and the events that it logs. -/
structure Step (α : Type) where
  answer : α
  session : Session
  events : List Log.Entry := []

/-- A new session. -/
def start (id : String) (settings : Settings) : Step Unit :=
  let catalog := settings.catalogInForce
  let query := Query.ofSettings settings catalog
  { answer := ()
    session :=
      { id, settings, catalog, query, display := .idle, inFlight := none, nextTicket := 1 }
    events := [{ event := .sessionStart, fields := [("session", id), ("entity", query.entity)] }] }

/-! ## Edits that are logged or that need the catalog -/

/-- Switches to an entity. -/
def changeEntity (entity : String) (s : Session) : Step Unit :=
  { answer := ()
    session := { s with query := s.query.changeEntity entity s.catalog }
    events :=
      [{ event := .entityChanged
         fields := [("entity", entity), ("known", toString (s.catalog.contains entity))] }] }

/-- Adds a sort on the entity's first field; the answer is its position. -/
def addSort (s : Session) : Step Nat :=
  let (index, query) := s.query.addSort s.catalog
  { answer := index, session := { s with query } }

/-- Replaces the query by a preset. -/
def applyPreset (preset : Preset) (s : Session) : Step (Except QueryError Unit) :=
  match preset.apply s.query with
  | (.error e, query) => { answer := .error e, session := { s with query } }
  | (.ok (), query) =>
    { answer := .ok ()
      session := { s with query }
      events :=
        [{ event := .presetApplied
           fields := [("sample", toString preset.number), ("entity", query.entity)] }] }

/-! ## Issuing requests -/

/-- Issues a request for the query as it is. -/
def issue (s : Session) : Step IssuedRequest :=
  let request := s.query.request
  let kind := RequestKind.ofFlag request.exports
  let ticket := s.nextTicket
  { answer := { ticket, kind, request }
    session := { s with display := .loading, inFlight := some ticket, nextTicket := ticket + 1 }
    events :=
      [{ event := .fetchBegin
         fields :=
          [("ticket", toString ticket), ("mode", kind.name), ("entity", request.entity),
            ("page", toString request.page), ("size", toString request.size)] }] }

/-- Issues a browse request. -/
def issueBrowse (s : Session) : Step IssuedRequest :=
  { s with query := { s.query with exports := false } }.issue

/-- Issues an export from the first page on, of the given size or that of the settings. -/
def issueExport (size : Option UInt32) (s : Session) : Step (Except QueryError IssuedRequest) :=
  match s.query.resize (size.getD s.settings.exportPageSize) with
  | .error e => { answer := .error e, session := s }
  | .ok query =>
    let step := { s with query := { query with page := 0, exports := true } }.issue
    { step with answer := .ok step.answer }

/-! ## Landing answers -/

/-- The event that an arrival is not the one in flight, if it is not. -/
def staleEntries (ticket : Ticket) (inFlight : Option Ticket) : List Log.Entry :=
  if inFlight = some ticket then []
  else
    [{ event := .staleResponseApplied
       fields :=
        [("ticket", toString ticket), ("in_flight", (inFlight.map toString).getD "none")] }]

/-- The code logged for a failed outcome; a body of the wrong shape is malformed. -/
def failureCode : Outcome → String
  | .error e => e.code
  | .ok _ => (ServiceError.malformed "").code

/-- The event that tells how an outcome was read. -/
def outcomeEntry (ticket : Ticket) (outcome : Outcome) (reaction : Reaction) : Log.Entry :=
  let withTicket (event : Log.Event) (fields : List (String × String)) : Log.Entry :=
    { event, fields := ("ticket", toString ticket) :: fields }
  match reaction.display, reaction.notice with
  | .error message, _ =>
    withTicket .fetchFailed [("code", failureCode outcome), ("error", message)]
  | _, some (.exportReady handle) => withTicket .exportReady [("file", handle.path)]
  | _, some (.exportDiagnostic body) => withTicket .exportDiagnostic [("body", body)]
  | display, _ => withTicket .fetchComplete [("rows", toString display.rowCount)]

/-- Applies an arrival, stale or not; the answer is the notice for the user. -/
def land (arrival : Arrival) (s : Session) : Step (Option Notice) :=
  let (reaction, query) := s.query.land arrival.kind arrival.outcome
  { answer := reaction.notice
    session :=
      { s with
        query
        display := reaction.display
        inFlight := if s.inFlight = some arrival.ticket then none else s.inFlight }
    events :=
      staleEntries arrival.ticket s.inFlight ++
        [outcomeEntry arrival.ticket arrival.outcome reaction] }

end Session

end EntityQuery
