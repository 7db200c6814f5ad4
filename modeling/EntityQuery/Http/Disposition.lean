import EntityQuery.Answer.Export
import EntityQuery.Text.Blank

/-!
# Attachment names

The file name that a `Content-Disposition` header value suggests.

## Main Definitions

* `Disposition.parameterName?`: the name in one parameter.
* `Disposition.fileName?`: the first name among the parameters.

## Design Notes

Of a name only what follows its last slash, of either kind, is used: a header
never chooses a directory.
-/

namespace EntityQuery.Disposition

/-- A text without the double quotes around it. -/
def unquoted (s : List Char) : List Char :=
  Text.dropTrailing '"' (Text.dropLeading '"' s)

/-- What follows the last slash. -/
def lastSegment (s : List Char) : List Char :=
  ((Text.splitOn ExportHandle.isSlash s).getLast?).getD []

/-- The name in one parameter, if it is the file name and not empty. -/
def parameterName? (parameter : List Char) : Option (List Char) :=
  match Text.cutFirst '=' (Text.trim parameter) with
  | none => none
  | some (key, value) =>
    if (Text.trim key).map Char.toLower = "filename".toList then
      let name := lastSegment (unquoted (Text.trim value))
      if name = [] then none else some name
    else none

/-- The first file name among the parameters of a header value. -/
def fileName? (header : String) : Option String :=
  ((Text.splitOn (· == ';') header.toList).findSome? parameterName?).map String.ofList

end EntityQuery.Disposition
