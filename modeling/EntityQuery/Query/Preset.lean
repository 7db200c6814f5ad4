import EntityQuery.Query.Basic
import EntityQuery.Text.Blank

/-!
# Presets

Four ready-made queries against the standard catalog.

## Main Definitions

* `Preset`: the presets.
* `Preset.ofNumber`: the preset of a number.
* `Preset.apply`: replaces what defines a query by a preset.

## Design Notes

The steps of a preset are applied one after the other.  Only the subquery of
the last preset can be refused, by the bound on nesting; what was replaced
before stays replaced, so `apply` answers a query in either case.
-/

namespace EntityQuery

/-- A ready-made query. -/
inductive Preset where
  /-- Employees whose name contains John. -/
  | nameLike
  /-- Employees by salary within a range, the highest first. -/
  | salaryRange
  /-- The names of departments, each once. -/
  | distinctDepartments
  /-- Employees of departments whose name contains Sales. -/
  | salesSubquery
deriving DecidableEq, Repr

namespace Preset

/-- Every preset. -/
def all : List Preset :=
  [.nameLike, .salaryRange, .distinctDepartments, .salesSubquery]

/-- The number of a preset. -/
def number : Preset → Nat
  | .nameLike => 1
  | .salaryRange => 2
  | .distinctDepartments => 3
  | .salesSubquery => 4

/-- What a preset asks for. -/
def description : Preset → String
  | .nameLike => "Employees with name like 'John'"
  | .salaryRange => "Employees with salary between 30000 and 80000, by salary desc"
  | .distinctDepartments => "Distinct department names"
  | .salesSubquery => "Employees in departments named like 'Sales' (subquery)"

/-- The line that announces a preset. -/
def title (preset : Preset) : String :=
  s!"Sample {preset.number}: {preset.description}"

/-- The preset of a number, blanks at its ends aside. -/
def ofNumber (raw : String) : Except QueryError Preset :=
  match all.find? fun p => toString p.number = Text.trimmed raw with
  | some p => .ok p
  | none => .error (.unknownPreset raw)

/-- The departments whose name contains Sales. -/
def salesDepartments : Subquery :=
  { entity := "Department"
    field := "id"
    filters := [{ field := "name", predicate := .like (.text "Sales") }] }

/-- Replaces what defines a query by a preset. -/
def apply (preset : Preset) (q : Query) : Except QueryError Unit × Query :=
  match preset with
  | .nameLike =>
    let q := q.restart "Employee" ["id", "name", "salary"] 10 false
    (.ok (), { q with filters := q.filters.put "name" (.like (.text "John")) })
  | .salaryRange =>
    let q := q.restart "Employee" ["id", "name", "salary"] 10 false
    let range : Predicate := .between (.number (.integer 30000)) (.number (.integer 80000))
    (.ok (), { q with
      filters := q.filters.put "salary" range
      sorts := q.sorts.append { field := "salary", direction := .desc } })
  | .distinctDepartments =>
    let q := q.restart "Employee" ["department.name"] 20 true
    (.ok (), { q with sorts := q.sorts.appendField "department.name" })
  | .salesSubquery =>
    let q := q.restart "Employee" ["id", "name", "department.name"] 10 false
    match q.filters.set "department.id" (.inSubquery salesDepartments) with
    | .error e => (.error (.criteria e), q)
    | .ok filters => (.ok (), { q with filters, sorts := q.sorts.appendField "name" })

end Preset

end EntityQuery
