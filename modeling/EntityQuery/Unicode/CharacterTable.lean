import EntityQuery.Text.Hex
import EntityQuery.Text.Split

/-!
# Tables over code points

What a standard says of single characters, kept as short texts: one entry for
every run of code points that are treated alike.

## Main Definitions

* `Entry`: a run of code points with what is said of it.
* `CharacterTable.ofText`: the table that a text of entries stands for.
* `CharacterTable.entryOf?`: the entry of a character.
* `CharacterTable.holds`: whether a table speaks of a character.

## Design Notes

An entry is written `first-last/step:values`, all numbers in hexadecimal and
the values between full stops.  A run of one code point is written by that
point alone, a step of one is left out, and so are the values where only
membership counts.  Entries stand in the order of their code points, so a
search ends at the first entry behind the character.
-/

namespace EntityQuery.Unicode

/-- A run of code points: every `step`-th one from `first` to `last`. -/
structure Entry where
  first : Nat
  last : Nat
  step : Nat
  /-- What is said of the first code point. -/
  values : List Nat
deriving DecidableEq, Repr

namespace Entry

/-- Whether an entry speaks of a code point. -/
def covers (e : Entry) (n : Nat) : Bool :=
  e.first ≤ n && n ≤ e.last && (n - e.first) % e.step == 0

/-- The values as characters, moved on by as much as `c` stands behind the first code point. -/
def charsFor (e : Entry) (c : Char) : List Char :=
  e.values.map fun v => Char.ofNat (v + (c.toNat - e.first))

/-- The number that hexadecimal digits stand for. -/
def number? (ds : List Char) : Option Nat :=
  if ds.isEmpty then none
  else ds.foldlM (fun n d => (Text.hexValue? d).map (n * 16 + ·)) 0

/-- The entry that a text stands for. -/
def ofText? (s : List Char) : Option Entry := do
  let (run, values) := (Text.cutFirst ':' s).getD (s, [])
  let (bounds, step) := (Text.cutFirst '/' run).getD (run, ['1'])
  let (first, last) := (Text.cutFirst '-' bounds).getD (bounds, bounds)
  let values ← if values.isEmpty then pure [] else (Text.splitOn (· == '.') values).mapM number?
  pure { first := ← number? first, last := ← number? last, step := ← number? step, values }

end Entry

/-- Entries in the order of their code points. -/
abbrev CharacterTable := List Entry

namespace CharacterTable

/-- Entries read, the last first, and one more if the text of one has begun; that text has its
last character first, too. -/
def withBegun (begun : List Char) (entries : List Entry) : List Entry :=
  match Entry.ofText? begun.reverse with
  | some e => e :: entries
  | none => entries

/-- The table that entries between blanks and line ends stand for. -/
def ofText (s : String) : CharacterTable :=
  let (begun, entries) := s.toList.foldl
    (fun (begun, entries) c =>
      if c = ' ' || c = '\n' then ([], withBegun begun entries) else (c :: begun, entries))
    ([], [])
  (withBegun begun entries).reverse

/-- The entry that speaks of a code point. -/
def at? (n : Nat) : CharacterTable → Option Entry
  | [] => none
  | e :: rest =>
    if n < e.first then none
    else if e.covers n then some e
    else at? n rest

/-- The entry of a character. -/
def entryOf? (t : CharacterTable) (c : Char) : Option Entry :=
  at? c.toNat t

/-- Whether a table speaks of a character. -/
def holds (t : CharacterTable) (c : Char) : Bool :=
  (t.entryOf? c).isSome

/-- The single value that a table gives a character, zero for those it does not hold. -/
def valueOf (t : CharacterTable) (c : Char) : Nat :=
  match t.entryOf? c with
  | some e => e.values.headD 0
  | none => 0

end CharacterTable

end EntityQuery.Unicode
