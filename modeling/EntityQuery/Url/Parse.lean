import EntityQuery.Text.Blank
import EntityQuery.Url.Host

/-!
# Reading URLs

Absolute URLs read from text, by the rules that browsers share.

## Main Definitions

* `Url.parse`: the URL that a text stands for.
* `Url.parseAuthority`: user, host and port.
* `Url.resolve`: the segments of a path, its dot segments followed.

## Design Notes

A text is cut at its separators first, from the outside in: fragment, query,
scheme, authority, path.  Each part is then put into its normal form alone.
-/

namespace EntityQuery.Url

open Decimal

/-! ## Schemes -/

/-- The usual port of a scheme with well-known rules. -/
def defaultPort? (scheme : String) : Option Nat :=
  [("http", 80), ("https", 443), ("ws", 80), ("wss", 443), ("ftp", 21)].lookup scheme

/-- Whether the scheme has well-known rules; a reversed slash is a slash there. -/
def isSpecial (scheme : String) : Bool :=
  scheme == "file" || (defaultPort? scheme).isSome

/-- The characters of a scheme after its first letter. -/
def isSchemeChar (c : Char) : Bool :=
  c.isAlphanum || c == '+' || c == '-' || c == '.'

/-- The scheme in lower case, and what follows its colon. -/
def cutScheme (s : List Char) : Option (String × List Char) :=
  match Text.cutFirst ':' s with
  | some (c :: cs, rest) =>
    if c.isAlpha && cs.all isSchemeChar then
      some (String.ofList ((c :: cs).map Char.toLower), rest)
    else none
  | _ => none

/-! ## Authorities -/

/-- The characters encoded in a path. -/
def isEncodedInPath (c : Char) : Bool :=
  [' ', '"', '#', '<', '>', '?', '\x60', '\x7b', '\x7d'].contains c

/-- The characters encoded in a user name or password. -/
def isEncodedInUser (c : Char) : Bool :=
  isEncodedInPath c || ['/', ':', ';', '=', '@', '[', '\\', ']', '^', '|'].contains c

/-- The characters encoded in a query. -/
def isEncodedInQuery (special : Bool) (c : Char) : Bool :=
  [' ', '"', '#', '<', '>'].contains c || (special && c == '\'')

/-- The characters encoded in a fragment. -/
def isEncodedInFragment (c : Char) : Bool :=
  [' ', '"', '<', '>', '\x60'].contains c

/-- A part in its normal form. -/
def encodePart (isEncoded : Char → Bool) (s : List Char) : String :=
  String.ofList (percentEncode isEncoded s)

/-- User name and password. -/
def parseUser (s : List Char) : String × String :=
  let (name, password) := (Text.cutFirst ':' s).getD (s, [])
  (encodePart isEncodedInUser name, encodePart isEncodedInUser password)

/-- Host and port, cut at the first colon outside brackets. -/
def cutPort (inBrackets : Bool) : List Char → List Char × Option (List Char)
  | [] => ([], none)
  | c :: rest =>
    if c = ':' && !inBrackets then ([], some rest)
    else
      let inBrackets := c = '[' || (inBrackets && c ≠ ']')
      let (host, port) := cutPort inBrackets rest
      (c :: host, port)

/-- The port that digits name, unless it is the usual one. -/
def parsePort (scheme : String) (digits : List Char) : Except Error (Option Nat) :=
  if !digits.all isDigit || 65535 < natOfDigits digits then .error .invalidPort
  else if digits.isEmpty || some (natOfDigits digits) = defaultPort? scheme then .ok none
  else .ok (some (natOfDigits digits))

/-- User, host and port, and what stands behind the port; only schemes without well-known rules
may lack a host, and then there is neither a user nor a port. -/
def parseAuthority (scheme : String) (s : List Char) : Except Error (Authority × List Char) := do
  let (user, hostPort) := match Text.cutLast '@' s with
    | some (user, hostPort) => (some user, hostPort)
    | none => (none, s)
  let (username, password) := parseUser (user.getD [])
  let (host, port) := cutPort false hostPort
  let hasUser := !(username.isEmpty && password.isEmpty)
  if host.isEmpty && (isSpecial scheme || port.isSome || hasUser) then throw .emptyHost
  let host ← if isSpecial scheme then parseHost host else parseOpaqueHost host
  -- A reversed slash ends a port even where it is no slash.
  let (digits, rest) := (port.getD []).span (· ≠ '\\')
  pure ({ username, password, host, port := ← parsePort scheme digits }, rest)

/-! ## Paths -/

/-- The separators of path segments. -/
def isSegmentEnd (special : Bool) (c : Char) : Bool :=
  c == '/' || (special && c == '\\')

/-- A segment with its encoded full stops written out. -/
def plainDots : List Char → List Char
  | '%' :: '2' :: c :: rest =>
    if c.toLower = 'e' then '.' :: plainDots rest else '%' :: plainDots ('2' :: c :: rest)
  | c :: rest => c :: plainDots rest
  | [] => []
termination_by s => s.length

/-- Whether a text is the letter of a drive. -/
def isDriveLetter : List Char → Bool
  | [letter, mark] => letter.isAlpha && (mark == ':' || mark == '|')
  | _ => false

/-- Whether a segment starts with a drive: its letter, alone or before a reversed slash. -/
def startsWithDrive (segment : List Char) : Bool :=
  isDriveLetter (segment.takeWhile (· ≠ '\\'))

/-- The segments above the last one; a path never leaves its drive. -/
def parent : List (List Char) → List (List Char)
  | [] => []
  | segment :: before => if startsWithDrive segment then segment :: before else before

/-- The segments of a path, its dot segments followed; `before` holds those read, the last first. -/
def resolve (before : List (List Char)) : List (List Char) → List (List Char)
  | [] => before.reverse
  | segment :: rest =>
    let dots := plainDots segment
    if dots = ['.', '.'] || dots = ['.'] then
      let before := if dots = ['.'] then before else parent before
      resolve (if rest.isEmpty then [] :: before else before) rest
    else resolve (percentEncode isEncodedInPath segment :: before) rest

/-- The segments of a path as text. -/
def pathText (segments : List (List Char)) : String :=
  String.ofList (segments.flatMap ('/' :: ·))

/-- The segments of a text, every slash of which separates two. -/
def parseSegments (special : Bool) (s : List Char) : List (List Char) :=
  resolve [] (Text.splitOn (isSegmentEnd special) s)

/-- A path below a root; its first slash may be missing. -/
def parsePath (special : Bool) (s : List Char) : List (List Char) :=
  match s with
  | c :: rest => parseSegments special (if isSegmentEnd special c then rest else c :: rest)
  | [] => parseSegments special []

/-! ## Whole URLs -/

/-- A file's path: a drive at its start is written with a colon, and empty segments there are
left out. -/
def filePathText (segments : List (List Char)) : String :=
  match segments with
  | [letter, mark] :: rest =>
    pathText ((if isDriveLetter [letter, mark] then [letter, ':'] else [letter, mark]) :: rest)
  | segments =>
    let segments := segments.dropWhile (·.isEmpty)
    pathText (if segments.isEmpty then [[]] else segments)

/-- A file's place by the text of its host and what follows that. -/
def parseFileHost (host path : List Char) : Except Error (String × List (List Char)) := do
  if isDriveLetter host then pure ("", parseSegments true (host ++ path))
  else if host.isEmpty then pure ("", parseSegments true path)
  else
    let host ← parseHost host
    if host = "localhost" then pure ("", parseSegments true path)
    else
      let segments := parsePath true path
      -- A drive is on this machine.
      pure (if segments.head?.any isDriveLetter then "" else host, segments)

/-- A file's place: its host, which may be empty, and its path. -/
def parseFilePlace (s : List Char) : Except Error (Option Authority × String) := do
  let isSlash := isSegmentEnd true
  let (host, segments) ← match s with
    | a :: b :: rest =>
      if isSlash a && isSlash b then
        let (host, path) := rest.span (!isSlash ·)
        parseFileHost host path
      else pure ("", parsePath true s)
    | _ => pure ("", parsePath true s)
  pure (some { username := "", password := "", host, port := none }, filePathText segments)

/-- The authority and the path of a URL, by its scheme; `isFollowed` says whether a query or a
fragment stands behind them. -/
def parsePlace (scheme : String) (isFollowed : Bool) (s : List Char) :
    Except Error (Option Authority × String) := do
  if scheme = "file" then parseFilePlace s
  else if isSpecial scheme then
    let isSlash := isSegmentEnd true
    let (authority, path) := (s.dropWhile isSlash).span (!isSlash ·)
    let (authority, _) ← parseAuthority scheme authority
    pure (some authority, pathText (parsePath true path))
  else
    match s with
    | '/' :: '/' :: rest =>
      let (authority, path) := rest.span (· ≠ '/')
      -- An at sign with nothing around it names no host.
      if authority = ['@'] && (isFollowed || !path.isEmpty) then throw .emptyHost
      let (authority, rest) ← parseAuthority scheme authority
      let path := rest ++ path
      pure (some authority, if path.isEmpty then "" else pathText (parsePath false path))
    | '/' :: rest => pure (none, pathText (parseSegments false rest))
    | opaquePath => pure (none, encodePart (fun _ => false) opaquePath)

/-- A text without the blanks around it and without its tabs and line ends. -/
def cleaned (s : List Char) : List Char :=
  let isEdge (c : Char) : Bool := c.toNat ≤ 0x20
  ((s.dropWhile isEdge).reverse.dropWhile isEdge).reverse.filter
    fun c => c ≠ '\t' && c ≠ '\n' && c ≠ '\r'

/-- What stands before and after the first `c`; without one, all stands before. -/
def cutTail (c : Char) (s : List Char) : List Char × Option (List Char) :=
  match Text.cutFirst c s with
  | some (before, after) => (before, some after)
  | none => (s, none)

/-- The URL that a text stands for. -/
def parse (text : String) : Except Error Url := do
  match cutScheme (cleaned text.toList) with
  | none => throw .relative
  | some (scheme, rest) =>
    let (rest, fragment) := cutTail '#' rest
    let (rest, query) := cutTail '?' rest
    let (authority, path) ← parsePlace scheme (query.isSome || fragment.isSome) rest
    pure
      { scheme, authority, path
        query := query.map (encodePart (isEncodedInQuery (isSpecial scheme)))
        fragment := fragment.map (encodePart isEncodedInFragment) }

end EntityQuery.Url
