import EntityQuery.Url.Form

/-!
# URLs

A URL in its parts, its text, and the adding of a pair to its query.

## Main Definitions

* `Url`: scheme, authority, path, query and fragment, in normalised text.
* `Url.text`: the URL as text.
* `Url.appendPair`: a pair added at the end of the query.
* `Url.Error`: why a text is no URL.
-/

namespace EntityQuery

/-- What a URL says about where its resource is served. -/
structure Url.Authority where
  username : String
  /-- The empty password is no password. -/
  password : String
  host : String
  /-- The port, unless it is the usual one of the scheme. -/
  port : Option Nat
deriving DecidableEq, Repr

/-- A URL in normalised parts. -/
structure Url where
  scheme : String
  authority : Option Url.Authority
  path : String
  query : Option String
  fragment : Option String
deriving DecidableEq, Repr

namespace Url

/-- Why a text is no URL. -/
inductive Error where
  | emptyHost
  | invalidInternationalName
  | invalidPort
  | invalidIpv4Address
  | invalidIpv6Address
  | invalidDomainCharacter
  /-- There is no scheme. -/
  | relative
deriving DecidableEq, Repr

/-- The wording of an error. -/
def Error.message : Error → String
  | .emptyHost => "empty host"
  | .invalidInternationalName => "invalid international domain name"
  | .invalidPort => "invalid port number"
  | .invalidIpv4Address => "invalid IPv4 address"
  | .invalidIpv6Address => "invalid IPv6 address"
  | .invalidDomainCharacter => "invalid domain character"
  | .relative => "relative URL without a base"

namespace Authority

/-- The user part of an authority, with its at sign. -/
def userText (a : Authority) : String :=
  if a.username.isEmpty && a.password.isEmpty then ""
  else if a.password.isEmpty then a.username ++ "@"
  else a.username ++ ":" ++ a.password ++ "@"

/-- Host and port. -/
def place (a : Authority) : String :=
  match a.port with
  | some n => a.host ++ ":" ++ toString n
  | none => a.host

/-- An authority as text. -/
def text (a : Authority) : String :=
  a.userText ++ a.place

end Authority

/-- Path and query: what a request names on its host. -/
def target (u : Url) : String :=
  u.path ++ (match u.query with
    | some q => "?" ++ q
    | none => "")

/-- A URL as text. -/
def text (u : Url) : String :=
  let authority := match u.authority with
    | some a => "//" ++ a.text
    -- A path that starts like an authority is kept apart from one.
    | none => if u.path.startsWith "//" then "/." else ""
  let fragment := match u.fragment with
    | some f => "#" ++ f
    | none => ""
  u.scheme ++ ":" ++ authority ++ u.target ++ fragment

/-- A query with a pair added at its end. -/
def addPair (name value : String) (query : Option String) : String :=
  let pair := String.ofList (encodePair name.toList value.toList)
  match query with
  | none => pair
  | some q => if q.isEmpty then pair else q ++ "&" ++ pair

/-- The URL with a pair added at the end of its query. -/
def appendPair (name value : String) (u : Url) : Url :=
  { u with query := some (addPair name value u.query) }

/-- The pairs of a URL's query, in order. -/
def queryPairs (u : Url) : List (List Char × List Char) :=
  decodePairs (u.query.getD "").toList

end Url

end EntityQuery
