/-!
# Blank characters

The characters with the Unicode property `White_Space`, and the operations on
lines of text that depend on nothing else: trimming, cutting off the first
word, and listing the words.

## Main Definitions

* `isBlank`: membership in `White_Space`.
* `trim`, `trimEnd`: remove blanks at the ends.
* `cutWord`: the first word and what follows it.
* `words`: the maximal runs of characters that are not blank.

## Design Notes

Everything is defined on `List Char`, so that a statement about a line is an
induction on its characters.  `trimmed` and `trimmedEnd` are the same operations
on strings.
-/

namespace EntityQuery.Text

/-- Membership in the Unicode property `White_Space`. -/
def isBlank (c : Char) : Bool :=
  let n := c.toNat
  (0x09 ≤ n && n ≤ 0x0D) || n == 0x20 || n == 0x85 || n == 0xA0 || n == 0x1680 ||
    (0x2000 ≤ n && n ≤ 0x200A) || n == 0x2028 || n == 0x2029 || n == 0x202F ||
    n == 0x205F || n == 0x3000

/-- Blanks at the front removed. -/
def trimStart (s : List Char) : List Char :=
  s.dropWhile isBlank

/-- Blanks at the end removed. -/
def trimEnd (s : List Char) : List Char :=
  (s.reverse.dropWhile isBlank).reverse

/-- Blanks at both ends removed. -/
def trim (s : List Char) : List Char :=
  trimEnd (trimStart s)

@[simp] theorem trimStart_nil : trimStart [] = [] := rfl

@[simp] theorem trimEnd_nil : trimEnd [] = [] := rfl

@[simp] theorem trim_nil : trim [] = [] := rfl

/-- The characters before the first blank, and the trimmed rest after it. -/
def cutWord (s : List Char) : List Char × List Char :=
  (s.takeWhile (!isBlank ·), trim ((s.dropWhile (!isBlank ·)).drop 1))

/-- Collects the words of a text; `current` holds the word being read, last character first. -/
def wordsFrom (current : List Char) : List Char → List (List Char)
  | [] => if current.isEmpty then [] else [current.reverse]
  | c :: rest =>
    if isBlank c then
      if current.isEmpty then wordsFrom [] rest else current.reverse :: wordsFrom [] rest
    else wordsFrom (c :: current) rest

/-- The maximal runs of characters that are not blank, in order. -/
def words (s : List Char) : List (List Char) :=
  wordsFrom [] s

/-- The text without blanks at its ends. -/
def trimmed (s : String) : String :=
  String.ofList (trim s.toList)

/-- The text without blanks at its end. -/
def trimmedEnd (s : String) : String :=
  String.ofList (trimEnd s.toList)

end EntityQuery.Text
