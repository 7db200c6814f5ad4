import EntityQuery.Criteria.Reading
import EntityQuery.Query.Basic

/-!
# Requests

The body of a request: what a query asks for, without what only the session
needs.

## Main Definitions

* `PageRequest`: the members of a request.
* `PageRequest.ofQuery`, `PageRequest.toQuery`: to and from a query.
* `PageRequest.wire`, `PageRequest.toJson`: the JSON object, its members in the
  order of the request or sorted by name.
* `PageRequest.description`: a request as a record.
-/

namespace EntityQuery

/-- The members of a request. -/
structure PageRequest where
  entity : String
  fields : List String
  filters : BoundedCriteria := .empty
  page : UInt32
  size : UInt32
  sort : SortString := .empty
  sorts : SortOrder := .empty
  distinct : Bool := false
  exports : Bool := false
deriving BEq

namespace PageRequest

/-- The request for a query. -/
def ofQuery (q : Query) : PageRequest :=
  { entity := q.entity
    fields := q.fields
    filters := q.filters
    page := q.page
    size := q.size
    sort := q.sortString
    sorts := q.sorts
    distinct := q.distinct
    exports := q.exports }

/-- The query that a request was made for; a page size of zero becomes one. -/
def toQuery (r : PageRequest) : Query :=
  { entity := r.entity
    fields := r.fields
    filters := r.filters
    sorts := r.sorts
    sortString := r.sort
    page := r.page
    size := max r.size 1
    distinct := r.distinct
    exports := r.exports
    lastExport := none }

/-- A request as a JSON object, in the order of the members. -/
def wire (r : PageRequest) : Json :=
  .object
    [ ("entity", .string r.entity),
      ("fields", .array (r.fields.map .string)),
      ("filters", r.filters.criteria.wire),
      ("page", .number (.integer r.page.toNat)),
      ("size", .number (.integer r.size.toNat)),
      ("sort", .string r.sort.raw),
      ("sorts", r.sorts.toJson),
      ("distinct", .bool r.distinct),
      ("export", .bool r.exports) ]

/-- A request as a JSON object, every object sorted by name. -/
def toJson (r : PageRequest) : Json :=
  r.wire.normalize

open Json (Source)

/-- The description of a request as a record. -/
def description {m : Type → Type} [Source m] : m PageRequest :=
  Source.record "RequestPayload"
    [ { name := "entity", required := true
        read := fun r => do return { r with entity := ← Source.text } },
      { name := "fields", required := true
        read := fun r => do return { r with fields := ← Source.list Source.text } },
      { name := "filters", required := false
        read := fun r => do return { r with filters := ← BoundedCriteria.description } },
      { name := "page", required := true
        read := fun r => do return { r with page := ← Settings.count } },
      { name := "size", required := true
        read := fun r => do return { r with size := ← Settings.count } },
      { name := "sort", required := false
        read := fun r => do return { r with sort := ⟨← Source.text⟩ } },
      { name := "sorts", required := false
        read := fun r => do return { r with sorts := ← SortOrder.description } },
      { name := "distinct", required := false
        read := fun r => do return { r with distinct := ← Source.flag } },
      { name := "export", required := false
        read := fun r => do return { r with exports := ← Source.flag } } ]
    { entity := "", fields := [], page := 0, size := 0 }

/-- The request that a JSON value stands for. -/
def ofJson (v : Json) : Except Json.Error PageRequest :=
  Json.decode description v

end PageRequest

/-- The request for a query. -/
def Query.request (q : Query) : PageRequest :=
  .ofQuery q

end EntityQuery
