import EntityQuery.Json.Source

/-!
# Pages

The answer to a browse request: some rows, and the place of the page among all
pages.

## Main Definitions

* `ResultPage`: the rows of a page, with the counts that the service gives.
* `PagePlace`: the place of a page.
* `ResultPage.description`: a page as a record.
-/

namespace EntityQuery

/-- The place of a page among all pages. -/
structure PagePlace where
  /-- The page, counted from one. -/
  number : UInt64
  totalPages : UInt64
  totalElements : UInt64
deriving DecidableEq, Repr

/-- The page banner. -/
def PagePlace.banner (p : PagePlace) : String :=
  s!"Page {p.number} of {p.totalPages} (Total: {p.totalElements})"

/-- A page of rows. -/
structure ResultPage where
  /-- The rows, each an object with its members sorted by name. -/
  rows : List Members
  /-- The page, counted from zero. -/
  page : UInt64
  totalPages : UInt64
  totalElements : UInt64
deriving Repr

namespace ResultPage

open Json (Source)

/-- A 64-bit count as a record part. -/
def count {m : Type → Type} [Source m] : m UInt64 := do
  return (← Source.natural UInt64.size "u64").toUInt64

/-- The description of a page as a record. -/
def description {m : Type → Type} [Source m] : m ResultPage :=
  Source.record "BrowseResponse"
    [ { name := "content", required := false
        read := fun p => do
          return { p with rows := ← Source.list (Source.dictionary Source.anything) } },
      { name := "page", required := true
        read := fun p => do return { p with page := ← count } },
      { name := "totalPages", required := true
        read := fun p => do return { p with totalPages := ← count } },
      { name := "totalElements", required := true
        read := fun p => do return { p with totalElements := ← count } } ]
    { rows := [], page := 0, totalPages := 0, totalElements := 0 }

/-- The page that a JSON value stands for. -/
def ofJson (v : Json) : Except Json.Error ResultPage :=
  Json.decode description v

/-- A page as a JSON object. -/
def toJson (p : ResultPage) : Json :=
  .object
    [ ("content", .array (p.rows.map .object)),
      ("page", .number (.integer p.page.toNat)),
      ("totalPages", .number (.integer p.totalPages.toNat)),
      ("totalElements", .number (.integer p.totalElements.toNat)) ]

/-- The place of the page; the last page that can be counted from zero keeps its number. -/
def place (p : ResultPage) : PagePlace :=
  { number := if p.page = UInt64.ofNat (UInt64.size - 1) then p.page else p.page + 1
    totalPages := p.totalPages
    totalElements := p.totalElements }

end ResultPage

end EntityQuery
