import EntityQuery.SortOrder

/-!
# Sort strings

The single sort string that older services read in place of a sort order.

## Main Definitions

* `SortString`: a string that is sent as it is.
* `SortString.key?`: its reading, `field[,direction]`.
-/

namespace EntityQuery

/-- A sort in the form that older services read. -/
structure SortString where
  raw : String
deriving DecidableEq, Repr

namespace SortString

/-- No sort. -/
def empty : SortString := ⟨""⟩

/-- The field before the first comma, descending after `,desc`; empty strings sort nothing. -/
def key? (s : SortString) : Option SortKey :=
  if s.raw.isEmpty then none
  else
    match Text.pieces (· == ',') s.raw with
    | [] => none
    | [field] => some { field, direction := .asc }
    | field :: direction :: _ =>
      some { field, direction := if Text.lowerAscii direction = "desc" then .desc else .asc }

end SortString

end EntityQuery
