import EntityQuery.Unicode.Decomposition

/-!
# Composed form

The one form of all sequences that stand for the same text: taken apart, the
marks on each character put in order, and put together again.

## Main Definitions

* `sortMarks`: the marks on each character in the order of their classes.
* `join?`: the character that a pair stands for.
* `composed`: the composed form of a text.

## Design Notes

A character is joined with a base before it unless another character of the
same or a higher class stands between the two.  What is held back between base
and mark is therefore kept beside the base, with the class of the last of it.
-/

namespace EntityQuery.Unicode

/-! ## The order of marks -/

/-- A mark put among marks in order, behind those of its own class. -/
def insertMark (mark : Char) : List Char → List Char
  | [] => [mark]
  | other :: rest =>
    if combiningClass mark < combiningClass other then mark :: other :: rest
    else other :: insertMark mark rest

/-- The marks on each character in the order of their classes; `marks`, in order, stand before
the text. -/
def sortMarksFrom (marks : List Char) : List Char → List Char
  | [] => marks
  | c :: rest =>
    if combiningClass c = 0 then marks ++ c :: sortMarksFrom [] rest
    else sortMarksFrom (insertMark c marks) rest

/-- The marks on each character in the order of their classes. -/
def sortMarks (s : List Char) : List Char :=
  sortMarksFrom [] s

/-- A text taken apart as far as possible, its marks in order. -/
def decomposed (s : List Char) : List Char :=
  sortMarks (s.flatMap decompose)

/-! ## Putting together -/

/-- The entry of a pair in the table of composites. -/
def composite? (a b : Char) : Option Entry :=
  composites.find? fun e =>
    match e.values with
    | [x, y] => x ≤ a.toNat && y ≤ b.toNat && a.toNat - x == b.toNat - y &&
        e.covers (e.first + (a.toNat - x))
    | _ => false

/-- The character that a pair stands for. -/
def join? (a b : Char) : Option Char :=
  match Hangul.join? a b with
  | some c => some c
  | none => (composite? a b).map fun e => Char.ofNat (e.first + (a.toNat - e.values.headD 0))

/-- Joins marks and bases; `between`, last first, stands between the base and what follows. -/
def joinFrom (base : Char) (between : List Char) : List Char → List Char
  | [] => base :: between.reverse
  | c :: rest =>
    let isBlocked := match between with
      | [] => false
      | last :: _ => combiningClass c ≤ combiningClass last
    match if isBlocked then none else join? base c with
    | some joined => joinFrom joined between rest
    | none =>
      if combiningClass c = 0 then base :: (between.reverse ++ joinFrom c [] rest)
      else joinFrom base (c :: between) rest

/-- A text in order, put together. -/
def joinAll : List Char → List Char
  | [] => []
  | c :: rest =>
    -- A mark at the start has no base to be joined with.
    if combiningClass c = 0 then joinFrom c [] rest else c :: joinAll rest

/-- The composed form of a text. -/
def composed (s : List Char) : List Char :=
  joinAll (decomposed s)

end EntityQuery.Unicode
