import EntityQuery.Domain.Label
import EntityQuery.Domain.Punycode

/-!
# Domain names

A domain name in the form in which it is looked up: labels in ASCII, in lower
case, one form for all spellings.

## Main Definitions

* `Label`: a label as it is read and as it is looked up.
* `Label.ofMapped?`: the label that a mapped text stands for.
* `asciiName?`: the ASCII form of a name.

## Design Notes

A label that is written in its ASCII form already stands for the label that it
decodes to, and that one has to obey all rules and to be in its one form.
-/

namespace EntityQuery.Domain

/-- A label of a domain name. -/
structure Label where
  /-- The characters that a reader sees. -/
  letters : List Char
  /-- The form in which it is looked up. -/
  ascii : List Char
deriving DecidableEq, Repr

/-- What marks a label as the ASCII form of another. -/
def asciiMark : List Char := ['x', 'n', '-', '-']

namespace Label

/-- The letters that an ASCII form stands for, given without its mark. -/
def letters? (code : List Char) : Option (List Char) := do
  if code.isEmpty || code.getLast? = some '-' || !isAscii code || 2000 < code.length then none
  let letters ← Punycode.decode? code
  if isMapped letters && isWellFormed letters then pure letters else none

/-- The ASCII form of a label. -/
def asciiForm (letters : List Char) : List Char :=
  if isAscii letters then letters else asciiMark ++ Punycode.encode letters

/-- The label that a mapped text stands for. -/
def ofMapped? (s : List Char) : Option Label :=
  if s.any isForbidden then none
  else if asciiMark.isPrefixOf s then
    (letters? (s.drop asciiMark.length)).map fun letters => { letters, ascii := s }
  else if isWellFormed s then some { letters := s, ascii := asciiForm s }
  else none

end Label

/-- Whether labels together obey the rules of direction, which hold once any label is written
from right to left. -/
def directionsFit (labels : List Label) : Bool :=
  !labels.any (hasRightToLeft ·.letters) || labels.all (fitsDirection ·.letters)

/-- The ASCII form of a name. -/
def asciiName? (name : List Char) : Option (List Char) := do
  let labels ← (Text.splitOn (· == '.') (← mapName? name)).mapM Label.ofMapped?
  if directionsFit labels then pure (['.'].intercalate (labels.map Label.ascii)) else none

end EntityQuery.Domain
