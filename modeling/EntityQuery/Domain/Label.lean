import EntityQuery.Domain.Mapping
import EntityQuery.Unicode.WritingDirection
import EntityQuery.Unicode.Joining
import EntityQuery.Unicode.Mark

/-!
# Rules on labels

What the labels of a domain name have to obey beyond the choice of their
characters.

## Main Definitions

* `isForbidden`: the ASCII characters that no label holds.
* `joinersFit`: whether invisible joiners stand only where they change how text looks.
* `isWellFormed`: whether a label alone obeys the rules.
* `fitsDirection`: whether a label obeys the rules of a name with text of both directions.
-/

namespace EntityQuery.Domain

open Unicode

/-- The ASCII characters that no domain name holds. -/
def isForbidden (c : Char) : Bool :=
  c.toNat ≤ 0x20 || c.toNat == 0x7F ||
    ['#', '%', '/', ':', '<', '>', '?', '@', '[', '\\', ']', '^', '|'].contains c

/-! ## Joiners -/

/-- The invisible character that keeps its neighbours apart. -/
def isNonJoiner (c : Char) : Bool :=
  c.toNat == 0x200C

/-- The invisible character that joins its neighbours. -/
def isJoiner (c : Char) : Bool :=
  c.toNat == 0x200D

/-- Whether a mark silences the vowel of the letter it stands on. -/
def isVirama (c : Char) : Bool :=
  combiningClass c == 9

/-- How the nearest character joins that is not transparent. -/
def nearestJoining (s : List Char) : Joining :=
  match (s.dropWhile (joining · == .transparent)).head? with
  | some c => joining c
  | none => .onNoSide

/-- Whether letters would join here; `before` has the last character first. -/
def joinsBetween (before after : List Char) : Bool :=
  (nearestJoining before == .left || nearestJoining before == .onBothSides) &&
    (nearestJoining after == .right || nearestJoining after == .onBothSides)

/-- Whether a character, if a joiner, changes how the text around it looks. -/
def joinerFits (before : List Char) (c : Char) (after : List Char) : Bool :=
  if isNonJoiner c || isJoiner c then
    before.head?.any isVirama || (isNonJoiner c && joinsBetween before after)
  else true

/-- Whether all joiners fit; `before` holds what is behind, the last first. -/
def joinersFitAfter (before : List Char) : List Char → Bool
  | [] => true
  | c :: rest => joinerFits before c rest && joinersFitAfter (c :: before) rest

/-- Whether invisible joiners stand only where they change how text looks. -/
def joinersFit (label : List Char) : Bool :=
  joinersFitAfter [] label

/-- Whether a label alone obeys the rules; labels in ASCII always do. -/
def isWellFormed (label : List Char) : Bool :=
  isAscii label || (!label.head?.any isMark && joinersFit label && label.length ≤ 1000)

/-! ## Direction -/

/-- Whether a text has letters or numbers that are set from right to left. -/
def hasRightToLeft (s : List Char) : Bool :=
  s.any fun c => direction c == .rightToLeft || direction c == .arabicNumber

/-- Whether what follows the first letter of a label from left to right fits it. -/
def fitsLeftToRight (rest : List WritingDirection) : Bool :=
  rest.all (fun d => d == .leftToRight || d == .europeanNumber || d == .neutral || d == .mark) &&
    rest.getLast?.all fun d => d == .leftToRight || d == .europeanNumber

/-- Whether what follows the first letter of a label from right to left fits it. -/
def fitsRightToLeft (rest : List WritingDirection) : Bool :=
  rest.all (· ≠ .leftToRight) &&
    rest.getLast?.all (fun d => d == .rightToLeft || d == .europeanNumber || d == .arabicNumber) &&
    !(rest.contains .europeanNumber && rest.contains .arabicNumber)

/-- Whether a label obeys the rules of a name with text of both directions: it starts with a
letter, ends with a letter or number but for marks, and keeps to one direction. -/
def fitsDirection (label : List Char) : Bool :=
  match label.map direction with
  | [] => true
  | first :: rest =>
    let rest := (rest.reverse.dropWhile (· == .mark)).reverse
    match first with
    | .leftToRight => fitsLeftToRight rest
    | .rightToLeft => fitsRightToLeft rest
    | _ => false

end EntityQuery.Domain
