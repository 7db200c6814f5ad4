import EntityQuery.Session.Basic

/-!
# Round trips

A session together with the service that answers it.

## Main Definitions

* `Session.send`: the arrival for an issued request.
* `Session.browse`, `Session.requestExport`: issue, send and land in one.
* `Session.fetchFile`: the file of the last export.
* `SessionError`: why there was no round trip, or no file at its end.
-/

namespace EntityQuery

/-- Why a session made no round trip, or got no file from one. -/
inductive SessionError where
  /-- No export has left a file. -/
  | noExport
  | query (error : QueryError)
  | service (error : ServiceError)
deriving DecidableEq, Repr

namespace SessionError

/-- The stable code of an error. -/
def code : SessionError → String
  | .noExport => "DYNQ_SESSION_NO_EXPORT"
  | .query e => e.code
  | .service e => e.code

/-- The wording of an error. -/
def message : SessionError → String
  | .noExport => "No export"
  | .query e => e.message
  | .service e => e.message

end SessionError

namespace Session

variable {m : Type → Type} [Monad m] (service : Service m) (log : List Log.Entry → m Unit)

/-- Sends an issued request. -/
def send (issued : IssuedRequest) : m Arrival := do
  let outcome ← service.answer issued.request
  pure { ticket := issued.ticket, kind := issued.kind, outcome }

/-- Sends an issued request and lands its answer, logging both steps. -/
def roundTrip (issued : Step IssuedRequest) : m (Option Notice × Session) := do
  log issued.events
  let arrival ← send service issued.answer
  let landed := issued.session.land arrival
  log landed.events
  pure (landed.answer, landed.session)

/-- Fetches the page that the query asks for. -/
def browse (s : Session) : m (Option Notice × Session) :=
  roundTrip service log s.issueBrowse

/-- Asks for an export, unless that cannot be issued. -/
def requestExport (size : Option UInt32) (s : Session) :
    m (Except SessionError (Option Notice) × Session) := do
  let issued := s.issueExport size
  match issued.answer with
  | .error e => pure (.error (.query e), issued.session)
  | .ok request =>
    let (notice, s) ← roundTrip service log { issued with answer := request }
    pure (.ok notice, s)

/-- The event that tells how fetching an exported file went. -/
def fileEntry (handle : ExportHandle) : Except ServiceError ExportedFile → Log.Entry
  | .ok f =>
    { event := .downloadComplete
      fields := [("file", f.name), ("bytes", toString f.bytes.length)] }
  | .error e =>
    { event := .downloadFailed, fields := [("file", handle.path), ("error", e.message)] }

/-- Fetches the file of the last export. -/
def fetchFile (s : Session) : m (Except SessionError ExportedFile) := do
  match s.query.lastExport with
  | none => pure (.error .noExport)
  | some handle =>
    let outcome ← service.file handle
    log [fileEntry handle outcome]
    pure (outcome.mapError .service)

end Session

end EntityQuery
