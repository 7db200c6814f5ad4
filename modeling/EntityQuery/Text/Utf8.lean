/-!
# UTF-8

Reading bytes as UTF-8, strictly or with a replacement for what is no UTF-8.

## Main Definitions

* `encode`: the bytes of a text.
* `decode?`: the text of bytes that are UTF-8.
* `decodeLossy`: the text of any bytes; each maximal part of a broken sequence
  becomes one replacement character.
* `lines`: the lines of bytes.

## Design Notes

The first byte of a sequence fixes its length and the range of its second byte;
every later byte is a continuation byte.  These ranges admit no overlong form,
no surrogate and nothing beyond the last code point.
-/

namespace EntityQuery.Text

/-- The bytes of a text. -/
def encode (s : List Char) : List UInt8 :=
  s.flatMap String.utf8EncodeChar

/-- What follows a first byte: the number of continuation bytes, and the range of the first. -/
structure Lead where
  /-- The bits that the first byte contributes. -/
  bits : Nat
  continuations : Nat
  low : Nat
  high : Nat

/-- The role of a byte at the start of a sequence. -/
def lead? (b : UInt8) : Option Lead :=
  let n := b.toNat
  if n < 0x80 then some ⟨n, 0, 0x80, 0xBF⟩
  else if n < 0xC2 then none
  else if n < 0xE0 then some ⟨n - 0xC0, 1, 0x80, 0xBF⟩
  else if n = 0xE0 then some ⟨0, 2, 0xA0, 0xBF⟩
  else if n = 0xED then some ⟨0xD, 2, 0x80, 0x9F⟩
  else if n < 0xF0 then some ⟨n - 0xE0, 2, 0x80, 0xBF⟩
  else if n = 0xF0 then some ⟨0, 3, 0x90, 0xBF⟩
  else if n < 0xF4 then some ⟨n - 0xF0, 3, 0x80, 0xBF⟩
  else if n = 0xF4 then some ⟨4, 3, 0x80, 0x8F⟩
  else none

/-- Reads `count` continuation bytes, the next of them within `low` and `high`.

Answers the code point read so far with whether it is complete, and the rest. -/
def continueFrom (bits : Nat) : (count low high : Nat) → List UInt8 → (Nat × Bool) × List UInt8
  | 0, _, _, rest => ((bits, true), rest)
  | _ + 1, _, _, [] => ((bits, false), [])
  | count + 1, low, high, b :: rest =>
    if low ≤ b.toNat && b.toNat ≤ high then
      continueFrom (bits * 64 + (b.toNat - 0x80)) count 0x80 0xBF rest
    else ((bits, false), b :: rest)

/-- Reads one sequence: its character, or `none` for a broken one, and the rest. -/
def step (b : UInt8) (rest : List UInt8) : Option Char × List UInt8 :=
  match lead? b with
  | none => (none, rest)
  | some l =>
    match continueFrom l.bits l.continuations l.low l.high rest with
    | ((n, true), rest) => (some (Char.ofNat n), rest)
    | ((_, false), rest) => (none, rest)

theorem length_continueFrom_le (count : Nat) (bits low high : Nat) (bs : List UInt8) :
    (continueFrom bits count low high bs).2.length ≤ bs.length := by
  induction count generalizing bits low high bs with
  | zero => simp [continueFrom]
  | succ count ih =>
    cases bs with
    | nil => simp [continueFrom]
    | cons b rest =>
      simp only [continueFrom]
      split
      · exact Nat.le_trans (ih ..) (Nat.le_succ _)
      · exact Nat.le_refl _

theorem length_step_le (b : UInt8) (rest : List UInt8) :
    (step b rest).2.length ≤ rest.length := by
  unfold step
  split
  · exact Nat.le_refl _
  · rename_i l _
    have h := length_continueFrom_le l.continuations l.bits l.low l.high rest
    split <;> rename_i heq <;> rw [heq] at h <;> exact h

/-- The characters of bytes in order; `none` stands for a broken sequence. -/
def decodeSteps : List UInt8 → List (Option Char)
  | [] => []
  | b :: rest => (step b rest).1 :: decodeSteps (step b rest).2
termination_by bs => bs.length
decreasing_by
  have := length_step_le b rest
  simp only [List.length_cons]
  omega

/-- The text of bytes, if they are UTF-8. -/
def decode? (bs : List UInt8) : Option (List Char) :=
  (decodeSteps bs).mapM id

/-- The character that stands for a broken sequence. -/
def replacement : Char := Char.ofNat 0xFFFD

/-- The text of bytes, with a replacement for every broken sequence. -/
def decodeLossy (bs : List UInt8) : List Char :=
  (decodeSteps bs).map (·.getD replacement)

/-- The byte order mark. -/
def byteOrderMark : List UInt8 := [0xEF, 0xBB, 0xBF]

/-- The bytes without a byte order mark at the front. -/
def dropByteOrderMark (bs : List UInt8) : List UInt8 :=
  if byteOrderMark.isPrefixOf bs then bs.drop 3 else bs

/-- A line without a carriage return at its end. -/
def dropReturn (line : List UInt8) : List UInt8 :=
  if line.getLast? = some 0x0D then line.dropLast else line

/-- Cuts bytes at line feeds; what follows the last line feed is a line unless it is empty. -/
def linesFrom (current : List UInt8) : List UInt8 → List (List UInt8)
  | [] => if current.isEmpty then [] else [current.reverse]
  | b :: rest =>
    if b = 0x0A then dropReturn current.reverse :: linesFrom [] rest
    else linesFrom (b :: current) rest

/-- The lines of bytes, without their line ends. -/
def lines (bs : List UInt8) : List (List UInt8) :=
  linesFrom [] bs

end EntityQuery.Text
