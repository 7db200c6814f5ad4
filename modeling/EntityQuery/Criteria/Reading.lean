import EntityQuery.Criteria.Bounded

/-!
# Reading criteria

The criteria that a JSON object stands for.  A member's name tells the kind of
its predicate, and the kind tells the shape of its value.

## Main Definitions

* `Predicate.ofJson`, `Criteria.ofMembers`: predicates and criteria of any depth.
* `BoundedCriteria.ofJson`, `Subquery.ofJson`: the same with a bound on the
  depth, which is checked once the whole tree has been read.
* `BoundedCriteria.description`, `Subquery.description`: as parts of a record.

## Design Notes

Members are read in the order in which the object holds them, and the first
fault is the one reported.  An absent or null `filters` member of a subquery
means that it has no criteria.
-/

namespace EntityQuery

/-- The text of a member, or the error that it is missing. -/
def SubqueryMember.read (member : SubqueryMember) (members : List (String × Json)) :
    Except CriteriaError String :=
  match (members.lookup member.name).bind Json.asString? with
  | some s => .ok s
  | none => .error (.missingMember member)

/-- The subquery with the given members, its criteria read already. -/
def Subquery.ofMembers (members : List (String × Json))
    (filters : Except CriteriaError Criteria) : Except CriteriaError Subquery := do
  let entity ← SubqueryMember.read .entity members
  let field ← SubqueryMember.read .field members
  let filters ← filters
  pure { entity, field, filters }

/-- The scalar operand of a predicate. -/
def Scalar.operandOfJson (wireName : String) (v : Json) : Except CriteriaError Scalar :=
  match Scalar.ofJson? v with
  | some s => .ok s
  | none => .error (.invalidValue wireName .notScalar)

/-- The two scalars of a range. -/
def Predicate.rangeOfJson (wireName : String) : Json → Except CriteriaError Predicate
  | .array [lower, upper] =>
    match Scalar.ofJson? lower, Scalar.ofJson? upper with
    | some lower, some upper => .ok (.between lower upper)
    | _, _ => .error (.invalidValue wireName .boundsNotScalar)
  | _ => .error (.invalidValue wireName .notPair)

/-- The predicate of a kind that a value other than a subquery object stands for. -/
def Predicate.ofPlainJson (kind : PredicateKind) (wireName : String) (v : Json) :
    Except CriteriaError Predicate :=
  match kind with
  | .equals => (Scalar.operandOfJson wireName v).map .equals
  | .like => (Scalar.operandOfJson wireName v).map .like
  | .between => Predicate.rangeOfJson wireName v
  | .inSubquery => .error (.invalidValue wireName .notSubquery)

mutual

/-- The predicate of a kind that a JSON value stands for, at any depth. -/
def Predicate.ofJson (kind : PredicateKind) (wireName : String) :
    Json → Except CriteriaError Predicate
  | .object members =>
    if kind = .inSubquery then
      (Subquery.ofMembers members (Criteria.ofFiltersMember wireName members)).map .inSubquery
    else Predicate.ofPlainJson kind wireName (.object members)
  | v => Predicate.ofPlainJson kind wireName v
termination_by structural v => v

/-- The criteria in the `filters` member of a subquery. -/
def Criteria.ofFiltersMember (wireName : String) :
    List (String × Json) → Except CriteriaError Criteria
  | [] => .ok []
  | (name, v) :: rest =>
    if name = "filters" then
      match v with
      | .null => .ok []
      | .object members => Criteria.ofMembers [] members
      | _ => .error (.invalidValue wireName .subqueryFiltersNotObject)
    else Criteria.ofFiltersMember wireName rest
termination_by structural members => members

/-- Adds the criteria that the members of an object stand for. -/
def Criteria.ofMembers (criteria : Criteria) :
    List (String × Json) → Except CriteriaError Criteria
  | [] => .ok criteria
  | (raw, v) :: rest => do
    let name ← CriterionName.ofWireName raw
    let predicate ← Predicate.ofJson name.kind name.wireName v
    Criteria.ofMembers (criteria.place { field := name.field, predicate }) rest
termination_by structural members => members

end

/-- The subquery that a JSON value stands for, at any depth. -/
def Subquery.ofAnyJson (wireName : String) : Json → Except CriteriaError Subquery
  | .object members => Subquery.ofMembers members (Criteria.ofFiltersMember wireName members)
  | _ => .error (.invalidValue wireName .notSubquery)

/-- The criteria that a JSON value stands for, nested at most `maxDepth` deep. -/
def BoundedCriteria.ofJson (v : Json) (maxDepth : Nat) : Except CriteriaError BoundedCriteria :=
  match v with
  | .object members => do
    let criteria ← Criteria.ofMembers [] members
    let depth := Criteria.depth criteria
    if maxDepth < depth then .error (.tooDeep depth maxDepth) else pure { criteria, maxDepth }
  | _ => .error (.invalidValue "filters" .notObject)

/-- The subquery that a JSON value stands for, nested at most `maxDepth` deep. -/
def Subquery.ofJson (v : Json) (maxDepth : Nat) : Except CriteriaError Subquery := do
  let query ← Subquery.ofAnyJson "subquery" v
  if maxDepth < query.depth then .error (.tooDeep query.depth maxDepth) else pure query

/-- An error of the criteria as the reason for which reading a record stops. -/
def CriteriaError.cause (e : CriteriaError) : Json.Cause :=
  .other e.message

/-- The description of criteria as a record part, with the default bound. -/
def BoundedCriteria.description {m : Type → Type} [Json.Source m] : m BoundedCriteria := do
  match BoundedCriteria.ofJson (← Json.Source.anything) defaultMaxDepth with
  | .ok criteria => pure criteria
  | .error e => Json.Source.refuse e.cause

/-- The description of a subquery as a record part, with the default bound. -/
def Subquery.description {m : Type → Type} [Json.Source m] : m Subquery := do
  match Subquery.ofJson (← Json.Source.anything) BoundedCriteria.defaultMaxDepth with
  | .ok query => pure query
  | .error e => Json.Source.refuse e.cause

end EntityQuery
