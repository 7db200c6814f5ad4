import EntityQuery.Http.Base64
import EntityQuery.Http.Basic

/-!
# HTTP messages

Requests and replies as the bytes that travel.

## Main Definitions

* `Http.Request.bytes`: a request as a message.
* `Http.Reply.ofBytes`: the reply in a message.

## Design Notes

Every request asks for the connection to be closed, so a reply is all that is
received until then.  A body that is shorter than announced is an error of the
body alone: status and headers stand.
-/

namespace EntityQuery.Http

/-! ## Requests -/

/-- The header that carries the user part of a URL. -/
def authorization (a : Url.Authority) : List String :=
  if a.username.isEmpty && a.password.isEmpty then []
  else
    let user := Url.percentDecode a.username.toList
    let password := Url.percentDecode a.password.toList
    let token := Base64.encode (user ++ Text.encode [':'] ++ password)
    ["authorization: Basic " ++ String.ofList token]

/-- The lines before the body. -/
def Request.head (r : Request) : List String :=
  let place := (r.url.authority.map (·.place)).getD ""
  [s!"{r.method.name} {r.url.target} HTTP/1.1", s!"host: {place}", "accept: */*",
      "connection: close"] ++
    ((r.url.authority.map authorization).getD []) ++
    (match r.contentType with
      | some t => [s!"content-type: {t}", s!"content-length: {r.body.utf8ByteSize}"]
      | none => [])

/-- A request as a message. -/
def Request.bytes (r : Request) : List UInt8 :=
  Text.encode ("\r\n".intercalate (r.head ++ ["", r.body])).toList

/-! ## Replies -/

/-- The lines up to the first empty one, and what follows it; `line` holds the line being
read, its last byte first. -/
def cutHead (line : List UInt8) : List UInt8 → Option (List (List UInt8) × List UInt8)
  | [] => none
  | b :: rest =>
    if b = 0x0A then
      let read := Text.dropReturn line.reverse
      if read = [] then some ([], rest)
      else (cutHead [] rest).map fun (lines, body) => (read :: lines, body)
    else cutHead (b :: line) rest

/-- The three digits behind the version. -/
def statusOf? (line : List UInt8) : Option Nat :=
  match Text.splitOn (· == ' ') (Text.decodeLossy line) with
  | version :: digits :: _ =>
    if "HTTP/1.".toList.isPrefixOf version && digits.length = 3 && digits.all Decimal.isDigit then
      some (Decimal.natOfDigits digits)
    else none
  | _ => none

/-- A header, cut at its colon. -/
def headerOf? (line : List UInt8) : Option (String × List UInt8) :=
  let name := line.takeWhile (· != 0x3A)
  match line.drop name.length with
  | _ :: value => some (String.ofList (Text.decodeLossy name), value)
  | [] => none

/-- The value of a run of hexadecimal digits. -/
def hexNumber (ds : List Char) : Nat :=
  ds.foldl (fun n d => 16 * n + (Text.hexValue? d).getD 0) 0

/-- The body in chunks, each behind a line with its size; `none` when it is cut short. -/
def unchunk? : (fuel : Nat) → List UInt8 → Option (List UInt8)
  | 0, _ => none
  | fuel + 1, s =>
    let line := s.takeWhile (· != 0x0A)
    match s.drop line.length with
    | [] => none
    | _ :: rest =>
      let digits := (Text.decodeLossy line).takeWhile fun c => (Text.hexValue? c).isSome
      let size := hexNumber digits
      if digits = [] then none
      else if size = 0 then some []
      else if rest.length < size then none
      else
        let next := ((rest.drop size).dropWhile (· != 0x0A)).drop 1
        (unchunk? fuel next).map fun more => rest.take size ++ more

/-- The body of a reply, by what its headers announce. -/
def bodyOf (r : Reply) (rest : List UInt8) : Except String (List UInt8) :=
  let short : Except String (List UInt8) := .error "end of file before message length reached"
  match r.header? "transfer-encoding", r.header? "content-length" with
  | some _, _ => (unchunk? rest.length rest).elim short .ok
  | none, some length =>
    match Decimal.scanNatural? UInt64.size length.toList with
    | some n => if rest.length < n then short else .ok (rest.take n)
    | none => .error "invalid content-length"
  | none, none => .ok rest

/-- The reply in a message, behind at most so many interim replies. -/
def Reply.ofBytesAfter : (interim : Nat) → List UInt8 → Except String Reply
  | 0, _ => .error "too many interim replies"
  | interim + 1, bytes =>
    match cutHead [] bytes with
    | none => .error "connection closed before message completed"
    | some ([], _) => .error "invalid HTTP status-line parsed"
    | some (first :: lines, rest) =>
      match statusOf? first, lines.mapM headerOf? with
      | some status, some headers =>
        if status < 200 then ofBytesAfter interim rest
        else
          let bare : Reply := { status, headers, body := .ok [] }
          .ok { bare with body := bodyOf bare rest }
      | _, _ => .error "invalid HTTP header parsed"

/-- The reply in a message. -/
def Reply.ofBytes (bytes : List UInt8) : Except String Reply :=
  Reply.ofBytesAfter 100 bytes

end EntityQuery.Http
