import EntityQuery.Json.Printer
import EntityQuery.Text.Split

/-!
# Answers to exports

What the answer to an export says: where the exported file is, or nothing of
the kind.

## Main Definitions

* `ExportHandle`: the name under which the service keeps an exported file.
* `ExportHandle.fileName`: a file name for it.
* `ExportAnswer.ofBody`: the reading of an answer.
-/

namespace EntityQuery

/-- The name under which the service keeps an exported file, handed back as it is. -/
structure ExportHandle where
  path : String
deriving DecidableEq, Repr

namespace ExportHandle

/-- Both kinds of slash separate the segments of a handle. -/
def isSlash (c : Char) : Bool :=
  c == '/' || c == '\\'

/-- The last segment that is not empty. -/
def fileName (h : ExportHandle) : String :=
  ((Text.pieces isSlash h.path).reverse.find? (· ≠ "")).getD "export"

end ExportHandle

/-- How the answer to an export is read. -/
inductive ExportAnswer where
  /-- The file is ready under a handle. -/
  | ready (handle : ExportHandle)
  /-- There is no handle; the whole body as JSON text. -/
  | diagnostic (body : String)
deriving DecidableEq, Repr

namespace ExportAnswer

/-- The handle in the member `file`, if that is a string other than the empty one. -/
def handle? (body : Json) : Option ExportHandle :=
  match (body.member? "file").bind Json.asString? with
  | some file => if file = "" then none else some ⟨file⟩
  | none => none

/-- Reads the answer to an export; every body has a reading. -/
def ofBody (body : Json) : ExportAnswer :=
  match handle? body with
  | some handle => .ready handle
  | none => .diagnostic body.compact

end ExportAnswer

end EntityQuery
