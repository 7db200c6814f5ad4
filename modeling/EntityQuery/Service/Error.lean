/-!
# Service errors

Why one exchange with the service failed.
-/

namespace EntityQuery

/-- Why one exchange with the service failed. -/
inductive ServiceError where
  /-- The service answered with a status that is no success. -/
  | status (number : Nat) (body : String)
  | network (reason : String)
  /-- The body is not JSON, or not of the shape that the request expects. -/
  | malformed (reason : String)
  | invalidUrl (reason : String)
deriving DecidableEq, Repr

namespace ServiceError

/-- The stable code of an error. -/
def code : ServiceError → String
  | .status _ _ => "DYNQ_TRANSPORT_STATUS"
  | .network _ => "DYNQ_TRANSPORT_NETWORK"
  | .malformed _ => "DYNQ_TRANSPORT_MALFORMED"
  | .invalidUrl _ => "DYNQ_TRANSPORT_INVALID_URL"

/-- The wording of an error. -/
def message : ServiceError → String
  | .status number _ => s!"Server error: {number}"
  | .network reason => s!"Network error: {reason}"
  | .malformed reason => s!"Malformed response: {reason}"
  | .invalidUrl reason => s!"Invalid URL: {reason}"

end ServiceError

end EntityQuery
