import EntityQuery.Query.Request
import EntityQuery.Service.Error

/-!
# Services

What answers the requests of a session.

## Main Definitions

* `ExportedFile`: a file that an export left.
* `Service`: how a request is answered and a file is fetched, in some monad.

## Design Notes

A session never looks behind a service, so the same session runs against a
network, a script of answers, or anything else.
-/

namespace EntityQuery

/-- A file that an export left. -/
structure ExportedFile where
  name : String
  bytes : List UInt8
  contentType : Option String
deriving DecidableEq, Repr

/-- The outcome of one exchange: the JSON body of the answer, or a failure. -/
abbrev Outcome := Except ServiceError Json

/-- What answers the requests of a session. -/
structure Service (m : Type → Type) where
  /-- Answers a request. -/
  answer : PageRequest → m Outcome
  /-- Fetches the file behind a handle. -/
  file : ExportHandle → m (Except ServiceError ExportedFile)

end EntityQuery
