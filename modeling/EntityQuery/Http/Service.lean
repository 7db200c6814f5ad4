import EntityQuery.Http.Basic
import EntityQuery.Settings
import EntityQuery.Url.Parse

/-!
# The service over HTTP

What is sent to the two endpoints of the service.

## Main Definitions

* `Http.Endpoints`: where queries are sent and where files are fetched.
* `Http.service`: a service over any means of exchanging requests for replies.

## Design Notes

The exchange itself is a parameter, so a reply is read alike whether it comes
from a network or from a list of prepared replies.
-/

namespace EntityQuery.Http

/-- Where queries are sent and where files are fetched. -/
structure Endpoints where
  queries : Url
  files : Url
deriving DecidableEq, Repr

namespace Endpoints

/-- The URL that a text stands for. -/
def parseUrl (text : String) : Except ServiceError Url :=
  (Url.parse text).mapError fun e => .invalidUrl e.message

/-- The endpoints that two texts stand for. -/
def ofTexts (queries files : String) : Except ServiceError Endpoints := do
  let queries ← parseUrl queries
  let files ← parseUrl files
  pure { queries, files }

/-- The endpoints of some settings. -/
def ofSettings (c : Settings) : Except ServiceError Endpoints :=
  ofTexts c.queryAddress c.fileAddress

/-- Where the file behind a handle is fetched. -/
def fileUrl (handle : ExportHandle) (e : Endpoints) : Url :=
  e.files.appendPair "filePath" handle.path

/-- The request that sends a query. -/
def queryRequest (request : PageRequest) (e : Endpoints) : Request :=
  { method := .post
    url := e.queries
    contentType := some "application/json"
    body := request.wire.compact }

/-- The request for the file behind a handle. -/
def fileRequest (handle : ExportHandle) (e : Endpoints) : Request :=
  { method := .get, url := e.fileUrl handle, contentType := none, body := "" }

end Endpoints

/-- Whether requests can be sent to a URL. -/
def canSend (u : Url) : Bool :=
  u.scheme == "http" || u.scheme == "https"

variable {m : Type → Type} [Monad m]

/-- The reply to a request; the error is the reason why there is none. -/
abbrev Exchange (m : Type → Type) := Request → m (Except String Reply)

/-- Sends a request and reads its reply. -/
def converse {α : Type} (exchange : Exchange m) (request : Request)
    (read : Reply → Except ServiceError α) : m (Except ServiceError α) := do
  if !canSend request.url then pure (.error (.network "URL scheme is not allowed"))
  else
    match ← exchange request with
    | .error reason => pure (.error (.network reason))
    | .ok reply => pure (read reply)

/-- The service behind two endpoints, over a means of exchange. -/
def service (endpoints : Endpoints) (exchange : Exchange m) : Service m where
  answer request := converse exchange (endpoints.queryRequest request) Reply.json
  file handle := converse exchange (endpoints.fileRequest handle) (Reply.file handle)

end EntityQuery.Http
