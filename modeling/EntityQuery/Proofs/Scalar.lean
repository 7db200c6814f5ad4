import EntityQuery.Proofs.Decimal.Numeral
import EntityQuery.Proofs.Text
import EntityQuery.Scalar
import Mathlib.Data.List.DropRight

/-!
# Typed numbers

A typed text is a number exactly if it is a numeral between blanks.  An integer
of 64 bits is kept as it is, and any other numeral is rounded to the nearest
floating point number.  Every other text is kept as it was typed, blanks and all,
and so is a numeral that would be rounded to infinity.

## Main Definitions

* `Text.trimAscii`: a text without the ASCII blanks at its ends.
* `Scalar.IsPadded`: a text is a numeral between blanks of any kind.

## Main Statements

* `Text.trim_eq_trimAscii`: no more is trimmed of a text without other blanks.
* `Scalar.ofTyped_reads`: what is meant by a typed text.
* `Scalar.ofTyped_beyond_ascii`: what is meant by a text with other characters than
  those of ASCII.

## Design Notes

Blanks are those of Unicode.  So a text may be a number with characters in it
that are not ASCII characters, but only blanks, and only at its ends.
-/

namespace EntityQuery

namespace Text

/-! ## ASCII blanks -/

/-- The blanks among the ASCII characters. -/
def isAsciiBlank (c : Char) : Bool :=
  (0x09 ≤ c.toNat && c.toNat ≤ 0x0D) || c == ' '

/-- ASCII blanks at both ends removed. -/
def trimAscii (s : List Char) : List Char :=
  (s.dropWhile isAsciiBlank).rdropWhile isAsciiBlank

/-- A blank is an ASCII blank, or it is no ASCII character. -/
theorem isBlank_eq_isAsciiBlank {c : Char} (ascii : isBlank c → c.toNat < 0x80) :
    isBlank c = isAsciiBlank c := by
  have space : c = ' ' ↔ c.toNat = 0x20 := by
    rw [← Char.toNat_inj]
    rfl
  rw [Bool.eq_iff_iff]
  simp only [isBlank, isAsciiBlank, Bool.or_eq_true, Bool.and_eq_true, decide_eq_true_eq,
    beq_iff_eq, space] at ascii ⊢
  omega

theorem dropWhile_congr {p q : Char → Bool} {s : List Char} (same : ∀ c ∈ s, p c = q c) :
    s.dropWhile p = s.dropWhile q := by
  induction s with
  | nil => rfl
  | cons c s ih =>
    rw [List.dropWhile_cons, List.dropWhile_cons, same c List.mem_cons_self,
      ih fun d mem => same d (List.mem_cons_of_mem c mem)]

/-- Where all blanks are ASCII characters, trimming removes the ASCII blanks. -/
theorem trim_eq_trimAscii {s : List Char} (ascii : ∀ c ∈ s, isBlank c → c.toNat < 0x80) :
    trim s = trimAscii s := by
  have same : ∀ c ∈ s, isBlank c = isAsciiBlank c :=
    fun c mem => isBlank_eq_isAsciiBlank (ascii c mem)
  have front : s.dropWhile isBlank = s.dropWhile isAsciiBlank := dropWhile_congr same
  have back : ∀ c ∈ (s.dropWhile isAsciiBlank).reverse, isBlank c = isAsciiBlank c :=
    fun c mem => same c ((List.dropWhile_suffix _).subset (List.mem_reverse.mp mem))
  rw [trim, trimStart, trimEnd, front, dropWhile_congr back]
  rfl

end Text

namespace Scalar

open Decimal

/-! ## Typed texts -/

theorem isInt64_eq_true_iff {n : Int} : isInt64 n = true ↔ -2 ^ 63 ≤ n ∧ n < 2 ^ 63 := by
  have half : ((UInt64.size / 2 : Nat) : Int) = 2 ^ 63 := rfl
  simp only [isInt64, half, Bool.and_eq_true, decide_eq_true_eq]
  exact and_comm

/-- A numeral is a number: itself if it is an integer of 64 bits, and else the nearest one. -/
theorem ofNumeral?_of_toInt? {x : Numeral} {n : Int} (integer : x.toInt? = some n)
    (least : -2 ^ 63 ≤ n) (greatest : n < 2 ^ 63) : ofNumeral? x = some (.integer n) := by
  have fits : isInt64 n = true := isInt64_eq_true_iff.mpr ⟨least, greatest⟩
  rw [ofNumeral?, integer, Option.filter_some_pos fits]

theorem ofNumeral?_of_beyond {x : Numeral}
    (beyond : ∀ n, x.toInt? = some n → n < -2 ^ 63 ∨ 2 ^ 63 ≤ n) :
    ofNumeral? x = x.toBinary64?.map .float := by
  have none : x.toInt?.filter isInt64 = none := by
    rw [Option.filter_eq_none_iff]
    intro n integer fits
    have bounds := isInt64_eq_true_iff.mp fits
    have := beyond n integer
    omega
  rw [ofNumeral?, none]

variable {raw : String}

/-- A text that is no numeral is kept. -/
theorem ofTyped_of_scan?_eq_none (refused : Numeral.scan? (Text.trim raw.toList) = none) :
    ofTyped raw = .text raw := by
  rw [ofTyped, refused, Option.bind_none]

theorem ofTyped_of_scan?_eq_some {x : Numeral}
    (read : Numeral.scan? (Text.trim raw.toList) = some x) :
    ofTyped raw = ((ofNumeral? x).map Scalar.number).getD (.text raw) := by
  rw [ofTyped, read, Option.bind_some]
  cases ofNumeral? x <;> rfl

/-- What is meant by a typed text whose blanks are all ASCII characters.  It counts as a numeral
exactly if it is one between blanks, by the grammar, and a text that is none is kept as it was
typed.  One that is written as an integer of 64 bits is that integer.  Any other numeral is the
nearest floating point number, with its sign, or, where that is infinite, the text that was typed. -/
theorem ofTyped_reads {raw : String} (ascii : ∀ c ∈ raw.toList, Text.isBlank c → c.toNat < 0x80) :
    let t := Text.trimAscii raw.toList
    (isNumeral raw = true ↔ ∃ x, Numeral.Spells t x) ∧
    ((¬∃ x, Numeral.Spells t x) → ofTyped raw = .text raw) ∧
    (∀ n, Numeral.SpellsInteger t n → -2 ^ 63 ≤ n → n < 2 ^ 63 →
      ofTyped raw = .number (.integer n)) ∧
    ∀ x, Numeral.Spells t x →
      (∀ n, Numeral.SpellsInteger t n → n < -2 ^ 63 ∨ 2 ^ 63 ≤ n) →
      (x.magnitude < Binary64.leastInfinite → ∃ y : Binary64,
        ofTyped raw = .number (.float y) ∧ y.negative = x.negative ∧ y.IsNearest x.magnitude) ∧
      (Binary64.leastInfinite ≤ x.magnitude → ofTyped raw = .text raw) := by
  intro t
  have trimmed : Text.trim raw.toList = t := Text.trim_eq_trimAscii ascii
  have scanned {x : Numeral} :
      Numeral.scan? (Text.trim raw.toList) = some x ↔ Numeral.Spells t x := by
    rw [trimmed]
    exact Numeral.scan?_eq_some_iff_spells
  refine ⟨?_, fun none => ?_, fun n integer least greatest => ?_, fun x spells beyond => ?_⟩
  · rw [isNumeral, Option.isSome_iff_exists]
    exact exists_congr fun x => scanned
  · refine ofTyped_of_scan?_eq_none (Option.eq_none_iff_forall_ne_some.mpr fun x read => ?_)
    exact none ⟨x, scanned.mp read⟩
  · obtain ⟨x, spells⟩ := integer.exists_spells
    rw [ofTyped_of_scan?_eq_some (scanned.mpr spells),
      ofNumeral?_of_toInt? (spells.spellsInteger_iff.mp integer) least greatest]
    rfl
  · have value : ofNumeral? x = x.toBinary64?.map .float :=
      ofNumeral?_of_beyond fun n integer => beyond n (spells.spellsInteger_iff.mpr integer)
    rw [ofTyped_of_scan?_eq_some (scanned.mpr spells), value]
    have rounds := x.roundsTo_toBinary64?
    generalize x.toBinary64? = rounded at rounds
    cases rounds with
    | finite lt sign nearest =>
      exact ⟨fun _ => ⟨_, rfl, sign, nearest⟩, fun le => absurd lt (not_lt.mpr le)⟩
    | infinite le => exact ⟨fun lt => absurd lt (not_lt.mpr le), fun _ => rfl⟩

/-- The least integer of 64 bits, between blanks and with zeros in front, is kept. -/
theorem ofTyped_reads_of_least :
    let raw := "\t-009223372036854775808 "
    (∀ c ∈ raw.toList, Text.isBlank c → c.toNat < 0x80) ∧
      ofTyped raw = .number (.integer (-2 ^ 63)) := by
  intro raw
  have all : raw.toList.all fun c => decide (c.toNat < 0x80) := by decide
  have ascii : ∀ c ∈ raw.toList, Text.isBlank c → c.toNat < 0x80 :=
    fun c mem _ => of_decide_eq_true (List.all_eq_true.mp all c mem)
  have trimmed : Text.trimAscii raw.toList = '-' :: "009223372036854775808".toList := by decide
  have value : signed true (natOfDigits "009223372036854775808".toList) = -2 ^ 63 := by decide
  have digits : IsDigits "009223372036854775808".toList := by decide
  have spelled : Numeral.SpellsInteger (Text.trimAscii raw.toList) (-2 ^ 63) := by
    rw [trimmed, ← value]
    exact .intro .minus digits
  exact ⟨ascii, (ofTyped_reads ascii).2.2.1 _ spelled (by decide) (by decide)⟩

/-! ## Texts with other characters -/

/-- The characters of numerals are visible ASCII characters. -/
theorem visible_of_isCharacter {c : Char} (char : Numeral.IsCharacter c) :
    0x20 < c.toNat ∧ c.toNat < 0x7F := by
  rcases char with digit | mark
  · simp only [isDigit, Bool.and_eq_true, decide_eq_true_eq, Char.le_def, UInt32.le_iff_toNat_le,
      Char.toNat_val] at digit
    have bounds : 0x30 ≤ c.toNat ∧ c.toNat ≤ 0x39 := digit
    omega
  · have marks : ∀ c ∈ ['+', '-', '.', 'e', 'E'], 0x20 < c.toNat ∧ c.toNat < 0x7F := by simp
    exact marks c mark

theorem solid_of_isCharacter {c : Char} (char : Numeral.IsCharacter c) : Text.isBlank c = false :=
  Text.isBlank_of_visible (visible_of_isCharacter char).1 (visible_of_isCharacter char).2

/-- A text is a numeral between blanks, whether these are ASCII characters or not. -/
def IsPadded (raw : String) (t : List Char) (x : Numeral) : Prop :=
  ∃ front back, raw.toList = front ++ (t ++ back) ∧ (∀ c ∈ front, Text.isBlank c) ∧
    (∀ c ∈ back, Text.isBlank c) ∧ Numeral.Spells t x

theorem IsPadded.isTrimmed {t : List Char} {x : Numeral} (padded : IsPadded raw t x) :
    Text.IsTrimmed t := by
  obtain ⟨_, _, _, _, _, spells⟩ := padded
  exact .of_forall fun c mem => solid_of_isCharacter (spells.characters c mem)

theorem isPadded_iff {t : List Char} {x : Numeral} :
    IsPadded raw t x ↔ Text.trim raw.toList = t ∧ Numeral.scan? t = some x := by
  constructor
  · intro padded
    have trimmed := padded.isTrimmed
    obtain ⟨front, back, whole, blankFront, blankBack, spells⟩ := padded
    rw [whole, trimmed.trim_append blankFront blankBack]
    exact ⟨rfl, Numeral.scan?_eq_some_iff_spells.mpr spells⟩
  · rintro ⟨rfl, read⟩
    obtain ⟨front, back, blankFront, blankBack, whole⟩ := Text.exists_trim_append raw.toList
    exact ⟨front, back, whole, blankFront, blankBack, Numeral.scan?_eq_some_iff_spells.mp read⟩

theorem isNumeral_eq_true_iff : isNumeral raw = true ↔ ∃ t x, IsPadded raw t x := by
  rw [isNumeral, Option.isSome_iff_exists]
  constructor
  · rintro ⟨x, read⟩
    exact ⟨_, x, isPadded_iff.mpr ⟨rfl, read⟩⟩
  · rintro ⟨t, x, padded⟩
    obtain ⟨rfl, read⟩ := isPadded_iff.mp padded
    exact ⟨x, read⟩

/-- A text that does not count as a numeral is kept. -/
theorem ofTyped_of_isNumeral_eq_false (other : isNumeral raw = false) : ofTyped raw = .text raw :=
  ofTyped_of_scan?_eq_none (Option.isSome_eq_false_iff.mp other |> Option.isNone_iff_eq_none.mp)

/-- What of a text is not trimmed away has to be in the numeral. -/
theorem isNumeral_eq_false_of_mem {c : Char} (mem : c ∈ Text.trim raw.toList)
    (wide : 0x80 ≤ c.toNat) : isNumeral raw = false := by
  rw [Bool.eq_false_iff, Ne, isNumeral_eq_true_iff]
  rintro ⟨t, x, padded⟩
  obtain ⟨rfl, -⟩ := isPadded_iff.mp padded
  obtain ⟨_, _, _, _, _, spells⟩ := padded
  have visible := visible_of_isCharacter (spells.characters c mem)
  omega

/-- A text is no number, and is kept, exactly unless it is a numeral between blanks.  So it is kept
if a character that is no ASCII character stands in it that is no blank, or has others than blanks on
both sides.  Where blanks of any kind are all that stands around a numeral, it counts as a numeral,
and is the number that the numeral alone would be. -/
theorem ofTyped_beyond_ascii (raw : String) :
    (isNumeral raw = false ∧ ofTyped raw = .text raw ↔ ¬∃ t x, IsPadded raw t x) ∧
    (∀ front c back, raw.toList = front ++ c :: back → 0x80 ≤ c.toNat →
      Text.isBlank c = false ∨
        (∃ d ∈ front, Text.isBlank d = false) ∧ (∃ d ∈ back, Text.isBlank d = false) →
      isNumeral raw = false ∧ ofTyped raw = .text raw) ∧
    ∀ t x, IsPadded raw t x →
      isNumeral raw = true ∧
        ∀ n, ofTyped raw = .number n ↔ ofTyped (String.ofList t) = .number n := by
  refine ⟨?_, fun front c back split wide inside => ?_, fun t x padded => ?_⟩
  · rw [← isNumeral_eq_true_iff, Bool.not_eq_true]
    exact and_iff_left_of_imp ofTyped_of_isNumeral_eq_false
  · have kept : c ∈ Text.trim raw.toList := by
      rw [split]
      rcases inside with solid | ⟨solidFront, solidBack⟩
      · exact Text.mem_trim_of_solid (by simp) solid
      · exact Text.mem_trim_of_between solidFront c solidBack
    have other := isNumeral_eq_false_of_mem kept wide
    exact ⟨other, ofTyped_of_isNumeral_eq_false other⟩
  · refine ⟨isNumeral_eq_true_iff.mpr ⟨t, x, padded⟩, fun n => ?_⟩
    have alone : Numeral.scan? (Text.trim (String.ofList t).toList) = some x := by
      rw [String.toList_ofList, padded.isTrimmed.trim_eq]
      exact (isPadded_iff.mp padded).2
    obtain ⟨rfl, read⟩ := isPadded_iff.mp padded
    rw [ofTyped_of_scan?_eq_some read, ofTyped_of_scan?_eq_some alone]
    cases ofNumeral? x <;> simp

/-- A number behind a space that does not break is a number, though the space is no ASCII
character. -/
theorem isNumeral_of_noBreakSpace :
    let raw := "\u00a042"
    (∃ c ∈ raw.toList, 0x80 ≤ c.toNat) ∧ isNumeral raw = true ∧
      ofTyped raw = .number (.integer 42) := by
  intro raw
  have read : Numeral.scan? (Text.trim raw.toList) = some ⟨false, ['4', '2'], none, none⟩ := by
    decide +kernel
  refine ⟨⟨'\u00a0', by decide, by decide⟩, by decide, ?_⟩
  have integer : Numeral.toInt? ⟨false, ['4', '2'], none, none⟩ = some 42 := rfl
  rw [ofTyped_of_scan?_eq_some read, ofNumeral?_of_toInt? integer (by decide) (by decide)]
  rfl

end Scalar

end EntityQuery
