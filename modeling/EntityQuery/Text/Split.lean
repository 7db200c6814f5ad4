/-!
# Cutting text at separators

Cuts of a text at the first, the last, or every place where a separator
stands, and the removal of a fixed ending.

## Main Definitions

* `splitOn`: the pieces between the separators.
* `cutFirst`, `cutLast`: the two sides of one separator.
* `cutFirstPair`: the two sides of the first place where a character stands twice.
* `dropEnding`: what stands before a given ending.

## Design Notes

`splitOn` always answers at least one piece, so an empty text has one empty
piece.  The cuts answer `none` exactly when the separator is absent.
-/

namespace EntityQuery.Text

/-- The pieces of a text between the characters for which `isSeparator` holds. -/
def splitOn (isSeparator : Char → Bool) : List Char → List (List Char)
  | [] => [[]]
  | c :: rest =>
    if isSeparator c then [] :: splitOn isSeparator rest
    else
      match splitOn isSeparator rest with
      | [] => [[c]]
      | piece :: pieces => (c :: piece) :: pieces

theorem splitOn_ne_nil (isSeparator : Char → Bool) (s : List Char) :
    splitOn isSeparator s ≠ [] := by
  cases s with
  | nil => simp [splitOn]
  | cons c rest =>
    simp only [splitOn]
    split
    · simp
    · split <;> simp

/-- The text before and after the first `c`. -/
def cutFirst (c : Char) : List Char → Option (List Char × List Char)
  | [] => none
  | d :: rest =>
    if d = c then some ([], rest)
    else (cutFirst c rest).map fun (before, after) => (d :: before, after)

/-- The text before and after the last `c`. -/
def cutLast (c : Char) : List Char → Option (List Char × List Char)
  | [] => none
  | d :: rest =>
    match cutLast c rest with
    | some (before, after) => some (d :: before, after)
    | none => if d = c then some ([], rest) else none

/-- The text before and after the first place where `c` stands twice in a row. -/
def cutFirstPair (c : Char) : List Char → Option (List Char × List Char)
  | [] | [_] => none
  | d :: e :: rest =>
    if d = c ∧ e = c then some ([], rest)
    else (cutFirstPair c (e :: rest)).map fun (before, after) => (d :: before, after)

/-- What stands before `ending`, if the text ends that way. -/
def dropEnding (ending s : List Char) : Option (List Char) :=
  if ending.isSuffixOf s then some (s.take (s.length - ending.length)) else none

theorem dropEnding_eq_some_iff {ending s start : List Char} :
    dropEnding ending s = some start ↔ s = start ++ ending := by
  unfold dropEnding
  constructor
  · intro h
    split at h
    · rename_i hs
      obtain ⟨t, rfl⟩ := List.isSuffixOf_iff_suffix.1 hs
      simp only [List.length_append, Nat.add_sub_cancel, List.take_left', Option.some.injEq] at h
      rw [← h]
    · cases h
  · rintro rfl
    simp

/-- The text with its leading `c`s removed. -/
def dropLeading (c : Char) (s : List Char) : List Char :=
  s.dropWhile (· == c)

/-- The text with its trailing `c`s removed. -/
def dropTrailing (c : Char) (s : List Char) : List Char :=
  (s.reverse.dropWhile (· == c)).reverse

/-- The ASCII letters in lower case, all else as it is. -/
def lowerAscii (s : String) : String :=
  String.ofList (s.toList.map Char.toLower)

/-- The ASCII letters in upper case, all else as it is. -/
def upperAscii (s : String) : String :=
  String.ofList (s.toList.map Char.toUpper)

/-- Pieces of a string between separators. -/
def pieces (isSeparator : Char → Bool) (s : String) : List String :=
  (splitOn isSeparator s.toList).map String.ofList

end EntityQuery.Text
