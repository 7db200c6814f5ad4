import EntityQuery.Json.Basic

/-!
# Catalogs

The fields that may be selected from each entity, in the order in which they
are offered.

## Main Definitions

* `Catalog`: entities with their fields, sorted by entity.
* `Catalog.standard`: the catalog in force where the settings have none.
* `Catalog.fields`, `Catalog.projection`, `Catalog.sortField`: what is offered
  for an entity.

## Design Notes

Every look-up has an answer: an unknown entity has no fields.
-/

namespace EntityQuery

/-- Entities with their selectable fields, sorted by entity. -/
structure Catalog where
  entries : List (String × List String)
deriving DecidableEq, Repr

namespace Catalog

/-- The catalog in force where the settings have none. -/
def standard : Catalog :=
  ⟨[("Department", ["id", "name"]),
    ("Employee", ["id", "name", "salary", "joiningDate", "department.name", "active"])]⟩

/-- The entities, sorted. -/
def entities (c : Catalog) : List String :=
  c.entries.map (·.1)

/-- Whether an entity is in the catalog. -/
def contains (entity : String) (c : Catalog) : Bool :=
  (c.entries.lookup entity).isSome

/-- The selectable fields of an entity. -/
def fields (entity : String) (c : Catalog) : List String :=
  (c.entries.lookup entity).getD []

/-- The number of fields projected after a change of entity. -/
def projectionLength : Nat := 3

/-- The fields projected right after a change to an entity. -/
def projection (entity : String) (c : Catalog) : List String :=
  (c.fields entity).take projectionLength

/-- The field on which a new sort of an entity without fields starts. -/
def keyField : String := "id"

/-- The field on which a new sort of an entity starts. -/
def sortField (entity : String) (c : Catalog) : String :=
  (c.fields entity).head?.getD keyField

end Catalog

end EntityQuery
