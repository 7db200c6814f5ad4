/-!
# Criteria errors

Why a criterion could not be set, or not be read from its wire form.

## Main Definitions

* `CriteriaError`: the causes.
* `CriteriaError.code`, `CriteriaError.message`: the stable code and the wording.
-/

namespace EntityQuery

/-- How a value fails to be a predicate of the kind that its name asks for. -/
inductive PredicateFault where
  | notScalar
  | notPair
  | boundsNotScalar
  | notSubquery
  | subqueryFiltersNotObject
  | notObject
  /-- The text of a subquery is not JSON. -/
  | notJson (message : String)
deriving DecidableEq, Repr

namespace PredicateFault

/-- The wording of a fault. -/
def message : PredicateFault → String
  | .notScalar => "expected a scalar"
  | .notPair => "expected a [lower, upper] pair"
  | .boundsNotScalar => "range bounds must be scalars"
  | .notSubquery => "expected a subquery object"
  | .subqueryFiltersNotObject => "subquery filters must be an object"
  | .notObject => "expected an object"
  | .notJson message => message

end PredicateFault

/-- A member that a subquery cannot do without. -/
inductive SubqueryMember where
  | entity
  | field
deriving DecidableEq, Repr

/-- The name of a subquery member on the wire. -/
def SubqueryMember.name : SubqueryMember → String
  | .entity => "entity"
  | .field => "field"

/-- Why a criterion could not be set or read. -/
inductive CriteriaError where
  /-- The wire name has no field. -/
  | invalidName (wireName : String)
  /-- The value is no predicate of the kind that the name asks for. -/
  | invalidValue (wireName : String) (fault : PredicateFault)
  /-- A subquery lacks its entity or its field. -/
  | missingMember (member : SubqueryMember)
  /-- Subqueries are nested deeper than allowed. -/
  | tooDeep (depth max : Nat)
deriving DecidableEq, Repr

namespace CriteriaError

/-- The stable code of an error. -/
def code : CriteriaError → String
  | .invalidName _ => "DYNQ_FILTER_INVALID_KEY"
  | .invalidValue _ _ => "DYNQ_FILTER_INVALID_VALUE"
  | .missingMember _ => "DYNQ_FILTER_SUBQUERY_INCOMPLETE"
  | .tooDeep _ _ => "DYNQ_FILTER_SUBQUERY_TOO_DEEP"

/-- The wording of an error. -/
def message : CriteriaError → String
  | .invalidName wireName => s!"Invalid filter key: '{wireName}'"
  | .invalidValue wireName fault => s!"Invalid value for filter '{wireName}': {fault.message}"
  | .missingMember member => s!"Subquery spec must contain '{member.name}'"
  | .tooDeep depth max => s!"Subquery nesting depth {depth} exceeds maximum {max}"

end CriteriaError

end EntityQuery
