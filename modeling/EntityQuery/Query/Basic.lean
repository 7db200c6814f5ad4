import EntityQuery.Answer.Export
import EntityQuery.Settings
import EntityQuery.SortString

/-!
# Queries

What a session is asking for: an entity, a projection, criteria, sorts, a page,
and the flags of the request.

## Main Definitions

* `Query`: the query, with the handle of the last export.
* `Query.ofSettings`: the query of a new session.
* `Query.changeEntity`, `Query.project`, …: the edits that touch more than one
  member, or that can be refused.
* `QueryError`: why an edit was refused.

## Design Notes

The projection is an ordered set: replacing it selects the new fields one by
one.  Pages stop at both ends of the 32-bit range.  Only `keepHandle` touches
the export handle, and nothing clears it.
-/

namespace EntityQuery

/-- Why an edit of a query was refused. -/
inductive QueryError where
  /-- The page size is zero. -/
  | zeroPageSize
  | unknownPreset (raw : String)
  | criteria (error : CriteriaError)
  | sort (error : SortError)
deriving DecidableEq, Repr

namespace QueryError

/-- The stable code of an error. -/
def code : QueryError → String
  | .zeroPageSize => "DYNQ_QUERY_INVALID_PAGE_SIZE"
  | .unknownPreset _ => "DYNQ_QUERY_UNKNOWN_SAMPLE"
  | .criteria e => e.code
  | .sort e => e.code

/-- The wording of an error. -/
def message : QueryError → String
  | .zeroPageSize => "Page size must be positive"
  | .unknownPreset raw => s!"Unknown sample: {raw}"
  | .criteria e => e.message
  | .sort e => e.message

end QueryError

/-- What a session is asking for. -/
structure Query where
  entity : String := "Employee"
  /-- The projected fields, in order. -/
  fields : List String := ["id", "name", "salary"]
  filters : BoundedCriteria := .empty
  sorts : SortOrder := .empty
  sortString : SortString := .empty
  /-- The page, counted from zero. -/
  page : UInt32 := 0
  size : UInt32 := 10
  distinct : Bool := false
  /-- The next request asks for an export. -/
  exports : Bool := false
  lastExport : Option ExportHandle := none
deriving BEq

namespace Query

/-- The query where nothing is set. -/
def initial : Query := {}

instance : Inhabited Query := ⟨initial⟩

/-- The entity on which a new session starts: `Employee`, or the first of the catalog. -/
def startEntity (catalog : Catalog) : String :=
  if catalog.contains initial.entity then initial.entity
  else catalog.entities.head?.getD initial.entity

/-- The query of a new session. -/
def ofSettings (settings : Settings) (catalog : Catalog) : Query :=
  let entity := startEntity catalog
  { entity
    fields := catalog.projection entity
    filters := .empty settings.maxSubqueryDepth
    size := settings.pageSize }

/-! ## Entity and projection -/

/-- Switches to an entity: its default projection, no sorts, the same criteria. -/
def changeEntity (entity : String) (catalog : Catalog) (q : Query) : Query :=
  { q with entity, fields := catalog.projection entity, sorts := .empty }

/-- Adds a field at the end of a projection, unless it is there. -/
def addField (fields : List String) (field : String) : List String :=
  if fields.contains field then fields else fields ++ [field]

/-- Replaces the projection; of a repeated field the first stays. -/
def project (fields : List String) (q : Query) : Query :=
  { q with fields := fields.foldl addField [] }

/-- Adds a field to the projection; the answer tells whether it was absent. -/
def select (field : String) (q : Query) : Bool × Query :=
  (!q.fields.contains field, { q with fields := addField q.fields field })

/-- Drops a field from the projection; the answer tells whether it was there. -/
def deselect (field : String) (q : Query) : Bool × Query :=
  (q.fields.contains field, { q with fields := q.fields.filter (· ≠ field) })

/-! ## Sorts and paging -/

/-- Adds an ascending sort on the first field of the entity; the answer is its position. -/
def addSort (catalog : Catalog) (q : Query) : Nat × Query :=
  (q.sorts.length, { q with sorts := q.sorts.appendField (catalog.sortField q.entity) })

/-- Goes one page on, unless the page is the last that can be numbered. -/
def nextPage (q : Query) : Query :=
  { q with page := if q.page = UInt32.ofNat (UInt32.size - 1) then q.page else q.page + 1 }

/-- Goes one page back; the answer is false on the first page. -/
def previousPage (q : Query) : Bool × Query :=
  if q.page = 0 then (false, q) else (true, { q with page := q.page - 1 })

/-- Sets the page size, which has to be positive. -/
def resize (size : UInt32) (q : Query) : Except QueryError Query :=
  if size = 0 then .error .zeroPageSize else .ok { q with size }

/-! ## Exports and presets -/

/-- Remembers the handle of a finished export. -/
def keepHandle (handle : ExportHandle) (q : Query) : Query :=
  { q with lastExport := some handle }

/-- Starts over on an entity: sort string, export flag, handle and bound on nesting stay. -/
def restart (entity : String) (fields : List String) (size : UInt32) (distinct : Bool)
    (q : Query) : Query :=
  { q.project fields with
    entity
    filters := q.filters.clear
    sorts := .empty
    page := 0
    size := max size 1
    distinct }

end Query

end EntityQuery
