import EntityQuery.Http.Disposition
import EntityQuery.Service.Basic
import EntityQuery.Text.Utf8
import EntityQuery.Url.Basic

/-!
# Requests and replies

One exchange over HTTP, and how a reply is read.

## Main Definitions

* `Http.Request`, `Http.Reply`: the two halves of an exchange.
* `Http.Reply.json`: the body of a reply to a query.
* `Http.Reply.file`: the file in a reply.

## Design Notes

A body can fail to arrive after its status and headers have; a failed status is
reported even then.
-/

namespace EntityQuery.Http

/-- The method of a request. -/
inductive Method where
  | get
  | post
deriving DecidableEq, Repr

/-- The name of a method. -/
def Method.name : Method → String
  | .get => "GET"
  | .post => "POST"

/-- A request. -/
structure Request where
  method : Method
  url : Url
  contentType : Option String
  body : String
deriving DecidableEq, Repr

/-- A reply; the body may have been cut short, for a reason. -/
structure Reply where
  status : Nat
  headers : List (String × List UInt8)
  body : Except String (List UInt8)

namespace Reply

/-- Whether the status reports success. -/
def isSuccess (r : Reply) : Bool :=
  200 ≤ r.status && r.status < 300

/-- Whether replies of a status come without a body, whatever follows them. -/
def lacksBody (status : Nat) : Bool :=
  status == 204 || status == 304

/-- The bytes of the body. -/
def bytes (r : Reply) : Except ServiceError (List UInt8) :=
  if lacksBody r.status then .ok []
  else r.body.mapError .network

/-- Bytes as text: UTF-8, without the mark at the start, replaced where invalid. -/
def textOf (bytes : List UInt8) : String :=
  String.ofList (Text.decodeLossy (Text.dropByteOrderMark bytes))

/-- The bytes that a header's text consists of. -/
def isHeaderText (b : UInt8) : Bool :=
  (0x20 ≤ b && b < 0x7F) || b == 0x09

/-- Whether a byte is no part of a header's value when it stands at an end. -/
def isHeaderBlank (b : UInt8) : Bool :=
  b == 0x20 || b == 0x09

/-- The text of the first header of a name, given in lower case; other bytes make it absent. -/
def header? (name : String) (r : Reply) : Option String :=
  match r.headers.find? fun h => Text.lowerAscii h.1 = name with
  | none => none
  | some (_, value) =>
    let value := ((value.dropWhile isHeaderBlank).reverse.dropWhile isHeaderBlank).reverse
    if value.all isHeaderText then some (textOf value) else none

/-- The reply, unless its status reports a failure. -/
def checked (r : Reply) : Except ServiceError Reply :=
  if r.isSuccess then .ok r
  else
    let body := match r.bytes with
      | .ok bytes => textOf bytes
      | .error _ => ""
    .error (.status r.status body)

/-- The body of a successful reply as JSON. -/
def json (r : Reply) : Except ServiceError Json := do
  let r ← r.checked
  match Json.parse (textOf (← r.bytes)) with
  | .ok v => pure v
  | .error e => throw (.malformed e.message)

/-- The file in a successful reply, named by its header or else by the handle. -/
def file (handle : ExportHandle) (r : Reply) : Except ServiceError ExportedFile := do
  let r ← r.checked
  let suggested := (r.header? "content-disposition").bind Disposition.fileName?
  pure
    { name := suggested.getD handle.fileName
      contentType := r.header? "content-type"
      bytes := ← r.bytes }

end Reply

end EntityQuery.Http
