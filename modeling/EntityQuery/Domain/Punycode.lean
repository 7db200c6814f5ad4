/-!
# Punycode

Labels of domain names in ASCII: the characters beyond ASCII are left out, and
a number behind the rest tells where each of them goes.

## Main Definitions

* `Punycode.encode`: the ASCII form of a label, without its mark.
* `Punycode.decode?`: the label that an ASCII form stands for.

## Design Notes

The characters beyond ASCII come in the order of their code points.  What is
written of each is how many places the writer passed since the one before,
counted over the whole label once for every code point between the two.  The
number has digits of base 36 whose weights adapt to the numbers before it.  The
reader takes the digits one by one; its state holds the number begun and the
characters placed so far.
-/

namespace EntityQuery.Domain.Punycode

/-! ## Weights -/

/-- The digit at which a number ends that has come to place `k`. -/
def threshold (bias k : Nat) : Nat :=
  if k ≤ bias then 1 else min (k - bias) 26

/-- The adapted bias after a number, with `points` characters placed. -/
def adapt (number points : Nat) (isFirst : Bool) : Nat :=
  let number := if isFirst then number / 700 else number / 2
  reduce 10 (number + number / points) 0
where
  /-- Divides by 35 until the number is small. -/
  reduce : Nat → Nat → Nat → Nat
    | 0, n, k => k + 36 * n / (n + 38)
    | fuel + 1, n, k =>
      if 455 < n then reduce fuel (n / 35) (k + 36) else k + 36 * n / (n + 38)

/-! ## Writing -/

/-- The digit of a value below 36. -/
def digit (n : Nat) : Char :=
  Char.ofNat (if n < 26 then 0x61 + n else 0x16 + n)

/-- A number in digits of variable weight. -/
def numberText (bias : Nat) : (fuel number k : Nat) → List Char
  | 0, _, _ => []
  | fuel + 1, number, k =>
    let t := threshold bias k
    if number < t then [digit number]
    else
      let rest := number - t
      digit (t + rest % (36 - t)) :: numberText bias fuel (rest / (36 - t)) (k + 36)

/-- A writer's state: places passed, bias, characters handled, output reversed. -/
structure Writer where
  passed : Nat
  bias : Nat
  handled : Nat
  reversed : List Char

/-- Passes one character of the label while `n` is the code point being placed. -/
def Writer.pass (n basic : Nat) (w : Writer) (c : Char) : Writer :=
  if c.toNat < n then { w with passed := w.passed + 1 }
  else if c.toNat = n then
    { passed := 0
      bias := adapt w.passed (w.handled + 1) (w.handled == basic)
      handled := w.handled + 1
      reversed := (numberText w.bias 40 w.passed 36).reverse ++ w.reversed }
  else w

/-- Places the code points from `n` on, the least first. -/
def Writer.placeFrom (label : List Char) (basic : Nat) : (fuel n : Nat) → Writer → List Char
  | 0, _, w => w.reversed.reverse
  | fuel + 1, n, w =>
    match ((label.map Char.toNat).filter (n ≤ ·)).min? with
    | none => w.reversed.reverse
    | some m =>
      let w := { w with passed := w.passed + (m - n) * (w.handled + 1) }
      let w := label.foldl (Writer.pass m basic) w
      placeFrom label basic fuel (m + 1) { w with passed := w.passed + 1 }

/-- The ASCII form of a label, without its mark. -/
def encode (label : List Char) : List Char :=
  let basic := label.filter (·.toNat < 0x80)
  let start := if basic.isEmpty then [] else basic ++ ['-']
  start ++ Writer.placeFrom label basic.length (label.length + 1) 0x80
    { passed := 0, bias := 72, handled := basic.length, reversed := [] }

/-! ## Reading -/

/-- The value of a digit of either case. -/
def digitValue? (c : Char) : Option Nat :=
  if c.isLower then some (c.toNat - 0x61)
  else if c.isUpper then some (c.toNat - 0x41)
  else if c.isDigit then some (c.toNat - 0x16)
  else none

/-- A number that fits in 32 bits. -/
def bounded? (n : Nat) : Option Nat :=
  if n < 4294967296 then some n else none

/-- A reader's state: the characters placed, and the number begun. -/
structure Reader where
  placed : List Char
  codePoint : Nat
  bias : Nat
  /-- The place at which the number began. -/
  start : Nat
  /-- The place that the digits read so far lead to. -/
  place : Nat
  weight : Nat
  k : Nat

/-- Puts the character at the place that a number has led to. -/
def Reader.put? (r : Reader) : Option Reader := do
  let places := r.placed.length + 1
  let codePoint := r.codePoint + r.place / places
  let place := r.place % places
  if codePoint.isValidChar then
    pure
      { placed := r.placed.insertIdx place (Char.ofNat codePoint)
        codePoint
        bias := adapt (r.place - r.start) places (r.start == 0)
        start := place + 1
        place := place + 1
        weight := 1
        k := 36 }
  else none

/-- Reads one digit. -/
def Reader.read? (r : Reader) (c : Char) : Option Reader := do
  let value ← digitValue? c
  let place ← bounded? (r.place + (← bounded? (value * r.weight)))
  let t := threshold r.bias r.k
  if value < t then Reader.put? { r with place }
  else pure { r with place, weight := ← bounded? (r.weight * (36 - t)), k := r.k + 36 }

/-- What stands before the last hyphen, and the digits; a hyphen at the start is no such hyphen. -/
def cut (s : List Char) : List Char × List Char :=
  let digits := (s.reverse.takeWhile (· ≠ '-')).reverse
  let basic := s.take (s.length - digits.length)
  if basic.length ≤ 1 then ([], s) else (basic.dropLast, digits)

/-- The label that an ASCII form stands for; a number must not stop short. -/
def decode? (s : List Char) : Option (List Char) := do
  let (basic, digits) := cut s
  let r ← digits.foldlM Reader.read?
    { placed := basic, codePoint := 0x80, bias := 72, start := 0, place := 0, weight := 1, k := 36 }
  if r.k = 36 then pure r.placed else none

end EntityQuery.Domain.Punycode
