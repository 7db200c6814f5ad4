import EntityQuery.Decimal.Numeral
import EntityQuery.Proofs.Decimal.Rounding
import Mathlib.Data.List.TakeWhile

/-!
# Numerals by their grammar

    [+-]? ( digits [ . digits? ] | . digits ) ( [eE] [+-]? digits )?

Scanning accepts the texts of this grammar and no others, and reads each of them
in the one way there is.  What a numeral stands for is rounded to the nearest
number of the format.

## Main Definitions

* `Numeral.Spells`: the texts of a numeral.
* `Numeral.magnitude`: the absolute value of a numeral.

## Main Statements

* `Numeral.scan?_eq_some_iff_spells`: what is scanned.
* `Numeral.roundsTo_toBinary64?`: what a numeral is rounded to.
* `spells_of_scanNatural?`: what is scanned as a natural number.
-/

namespace EntityQuery.Decimal

/-! ## Digits -/

theorem natOfDigits_append (ds es : List Char) :
    natOfDigits (ds ++ es) = natOfDigits ds * 10 ^ es.length + natOfDigits es := by
  induction es using List.reverseRecOn with
  | nil => simp
  | append_singleton es d ih =>
    have last (cs : List Char) : natOfDigits (cs ++ [d]) = 10 * natOfDigits cs + digitValue d := by
      simp [natOfDigits]
    rw [← List.append_assoc, last, last, ih, List.length_append, List.length_singleton]
    ring

/-- `digits` -/
structure IsDigits (ds : List Char) : Prop where
  ne_nil : ds ≠ []
  all : ∀ c ∈ ds, isDigit c

variable {ds rest : List Char}

/-- Digits are taken up to the first character that is none. -/
theorem span_digits (all : ∀ c ∈ ds, isDigit c) (stop : ∀ c ∈ rest.head?, ¬isDigit c) :
    (ds ++ rest).takeWhile isDigit = ds ∧ (ds ++ rest).dropWhile isDigit = rest := by
  have head : rest.takeWhile isDigit = [] ∧ rest.dropWhile isDigit = rest := by
    cases rest with
    | nil => exact ⟨rfl, rfl⟩
    | cons c rest =>
      have other : ¬isDigit c := stop c rfl
      exact ⟨List.takeWhile_cons_of_neg other, List.dropWhile_cons_of_neg other⟩
  constructor
  · rw [List.takeWhile_append_of_pos all, head.1, List.append_nil]
  · rw [List.dropWhile_append_of_pos all, head.2]

theorem isDigit_ne_sign {c : Char} (digit : isDigit c) : c ≠ '-' ∧ c ≠ '+' := by
  constructor <;> rintro rfl <;> exact absurd digit (by decide)

/-- Digits begin with no sign. -/
theorem IsDigits.head?_ne (digits : IsDigits ds) (rest : List Char) :
    ∀ c ∈ (ds ++ rest).head?, c ≠ '-' ∧ c ≠ '+' := by
  obtain ⟨d, ds, rfl⟩ := List.exists_cons_of_ne_nil digits.ne_nil
  rintro c ⟨rfl⟩
  exact isDigit_ne_sign (digits.all d List.mem_cons_self)

/-- Whether a text is made of digits can be computed. -/
theorem isDigits_iff : IsDigits ds ↔ (ds.isEmpty || !ds.all isDigit) = false := by
  simp only [Bool.or_eq_false_iff, List.isEmpty_eq_false_iff, Bool.not_eq_false', List.all_eq_true]
  exact ⟨fun digits => ⟨digits.ne_nil, digits.all⟩, fun digits => ⟨digits.1, digits.2⟩⟩

instance (ds : List Char) : Decidable (IsDigits ds) :=
  decidable_of_iff' _ isDigits_iff

/-- The number that a sign gives to an absolute value. -/
def signed (negative : Bool) (n : Nat) : Int :=
  if negative then -n else n

namespace Numeral

/-! ## The grammar -/

/-- `[+-]?` -/
inductive SpellsSign : List Char → Bool → Prop
  | unsigned : SpellsSign [] false
  | plus : SpellsSign ['+'] false
  | minus : SpellsSign ['-'] true

/-- `digits [. digits?] | . digits`, with the digits before the point, and those after it if there
is a point. -/
inductive SpellsMantissa : List Char → List Char → Option (List Char) → Prop
  | whole {ds : List Char} (digits : IsDigits ds) : SpellsMantissa ds ds none
  | pointed {ds fs : List Char} (digits : IsDigits ds) (fraction : ∀ c ∈ fs, isDigit c) :
      SpellsMantissa (ds ++ '.' :: fs) ds (some fs)
  | fraction {fs : List Char} (digits : IsDigits fs) : SpellsMantissa ('.' :: fs) [] (some fs)

/-- `([eE] [+-]? digits)?` -/
inductive SpellsExponent : List Char → Option Int → Prop
  | absent : SpellsExponent [] none
  | marked {mark : Char} {sign ds : List Char} {negative : Bool} (begins : mark = 'e' ∨ mark = 'E')
      (signs : SpellsSign sign negative) (digits : IsDigits ds) :
      SpellsExponent (mark :: (sign ++ ds)) (some (signed negative (natOfDigits ds)))

/-- The texts of a numeral. -/
inductive Spells : List Char → Numeral → Prop
  | intro {sign mantissa whole tail : List Char} {negative : Bool} {fraction : Option (List Char)}
      {exponent : Option Int} (signs : SpellsSign sign negative)
      (digits : SpellsMantissa mantissa whole fraction) (power : SpellsExponent tail exponent) :
      Spells (sign ++ (mantissa ++ tail)) { negative, whole, fraction, exponent }

variable {s sign : List Char} {negative : Bool} {x : Numeral}

/-- The characters of the grammar. -/
def IsCharacter (c : Char) : Prop :=
  isDigit c ∨ c ∈ ['+', '-', '.', 'e', 'E']

theorem SpellsSign.characters (signs : SpellsSign s negative) : ∀ c ∈ s, IsCharacter c := by
  cases signs <;> simp [IsCharacter]

theorem SpellsMantissa.characters {whole : List Char} {fraction : Option (List Char)}
    (spells : SpellsMantissa s whole fraction) : ∀ c ∈ s, IsCharacter c := by
  cases spells with
  | whole digits => exact fun c mem => .inl (digits.all c mem)
  | pointed digits more =>
    rw [List.forall_mem_append, List.forall_mem_cons]
    exact ⟨fun c mem => .inl (digits.all c mem), .inr (by decide), fun c mem => .inl (more c mem)⟩
  | fraction digits =>
    rw [List.forall_mem_cons]
    exact ⟨.inr (by decide), fun c mem => .inl (digits.all c mem)⟩

theorem SpellsExponent.characters {e : Option Int} (power : SpellsExponent s e) :
    ∀ c ∈ s, IsCharacter c := by
  cases power with
  | absent => nofun
  | marked begins signs digits =>
    rw [List.forall_mem_cons, List.forall_mem_append]
    refine ⟨.inr ?_, signs.characters, fun c mem => .inl (digits.all c mem)⟩
    rcases begins with rfl | rfl <;> decide

/-- A numeral is written in the characters of the grammar. -/
theorem Spells.characters (spells : Spells s x) : ∀ c ∈ s, IsCharacter c := by
  obtain ⟨signs, digits, power⟩ := spells
  rw [List.forall_mem_append, List.forall_mem_append]
  exact ⟨signs.characters, digits.characters, power.characters⟩

/-! ## Scanning -/

/-- A sign that is taken off is the one that stands there. -/
theorem exists_takeSign_eq (s : List Char) :
    ∃ sign negative rest, s = sign ++ rest ∧ SpellsSign sign negative ∧
      takeSign s = (negative, rest) := by
  unfold takeSign
  split
  · exact ⟨_, _, _, rfl, .minus, rfl⟩
  · exact ⟨_, _, _, rfl, .plus, rfl⟩
  · exact ⟨_, _, _, rfl, .unsigned, rfl⟩

/-- A sign is taken off in front of anything that does not begin with another one. -/
theorem takeSign_append (signs : SpellsSign sign negative)
    (stop : ∀ c ∈ rest.head?, c ≠ '-' ∧ c ≠ '+') : takeSign (sign ++ rest) = (negative, rest) := by
  cases signs with
  | plus | minus => rfl
  | unsigned =>
    rw [List.nil_append, takeSign.eq_def]
    split
    · exact absurd rfl (stop '-' rfl).1
    · exact absurd rfl (stop '+' rfl).2
    · rfl

theorem scanExponent?_cons (mark : Char) (s : List Char) :
    scanExponent? (mark :: s) =
      if (mark = 'e' ∨ mark = 'E') ∧ IsDigits (takeSign s).2 then
        some (some (signed (takeSign s).1 (natOfDigits (takeSign s).2)))
      else none := by
  rw [scanExponent?]
  by_cases begins : mark = 'e' ∨ mark = 'E'
  · rw [if_pos begins]
    by_cases digits : IsDigits (takeSign s).2
    · have accepted := isDigits_iff.mp digits
      simp [begins, digits, accepted, signed]
    · have refused := mt isDigits_iff.mpr digits
      simp [begins, digits, refused]
  · rw [if_neg begins, if_neg (fun both => begins both.1)]

/-- The end of a numeral is read as the exponent that it spells. -/
theorem scanExponent?_eq_some_iff {e : Option Int} :
    scanExponent? s = some e ↔ SpellsExponent s e := by
  constructor
  · intro scanned
    cases s with
    | nil =>
      cases scanned
      exact .absent
    | cons mark s =>
      obtain ⟨sign, negative, rest, rfl, signs, taken⟩ := exists_takeSign_eq s
      rw [scanExponent?_cons, taken] at scanned
      split at scanned
      · rename_i accepted
        cases scanned
        exact .marked accepted.1 signs accepted.2
      · cases scanned
  · intro spells
    cases spells with
    | absent => rfl
    | marked begins signs digits =>
      have stop := digits.head?_ne []
      rw [List.append_nil] at stop
      rw [scanExponent?_cons, takeSign_append signs stop, if_pos ⟨begins, digits⟩]

/-- The digits after a point at the front, if there is one, and what follows them. -/
def takeFraction : List Char → Option (List Char) × List Char
  | '.' :: s => (some (s.takeWhile isDigit), s.dropWhile isDigit)
  | s => (none, s)

theorem scan?_eq (s : List Char) :
    scan? s =
      let body := (takeSign s).2
      let whole := body.takeWhile isDigit
      let (fraction, tail) := takeFraction (body.dropWhile isDigit)
      if whole = [] ∧ fraction.getD [] = [] then none
      else (scanExponent? tail).map fun exponent =>
        { negative := (takeSign s).1, whole, fraction, exponent } := by
  have same : scan? s =
      let body := (takeSign s).2
      let whole := body.takeWhile isDigit
      let (fraction, tail) := takeFraction (body.dropWhile isDigit)
      if whole.isEmpty && (fraction.getD []).isEmpty then none
      else (scanExponent? tail).map fun exponent =>
        { negative := (takeSign s).1, whole, fraction, exponent } := rfl
  simpa only [Bool.and_eq_true, List.isEmpty_iff] using same

/-- What is read as digits before and after a point, if either are there, spells them. -/
theorem spellsMantissa_of_takeFraction {fraction : Option (List Char)} {tail : List Char}
    (taken : takeFraction (s.dropWhile isDigit) = (fraction, tail))
    (filled : ¬(s.takeWhile isDigit = [] ∧ fraction.getD [] = [])) :
    ∃ mantissa, s = mantissa ++ tail ∧ SpellsMantissa mantissa (s.takeWhile isDigit) fraction := by
  have digits (t : List Char) : ∀ c ∈ t.takeWhile isDigit, isDigit c :=
    fun _ mem => List.mem_takeWhile_imp mem
  have cut := List.takeWhile_append_dropWhile (p := isDigit) (l := s)
  unfold takeFraction at taken
  split at taken
  · rename_i rest after
    cases taken
    have cut' := List.takeWhile_append_dropWhile (p := isDigit) (l := rest)
    by_cases whole : s.takeWhile isDigit = []
    · refine ⟨'.' :: rest.takeWhile isDigit, ?_, ?_⟩
      · rw [List.cons_append, cut', ← after]
        simpa [whole] using cut.symm
      · rw [whole]
        exact .fraction ⟨fun none => filled ⟨whole, none⟩, digits rest⟩
    · refine ⟨s.takeWhile isDigit ++ '.' :: rest.takeWhile isDigit, ?_, ?_⟩
      · rw [List.append_assoc, List.cons_append, cut', ← after, cut]
      · exact .pointed ⟨whole, digits s⟩ (digits rest)
  · cases taken
    exact ⟨s.takeWhile isDigit, cut.symm, .whole ⟨fun none => filled ⟨none, rfl⟩, digits s⟩⟩

/-- Nothing behind a mantissa can be taken for more of it. -/
theorem SpellsExponent.stop {tail : List Char} {exponent : Option Int}
    (power : SpellsExponent tail exponent) : ∀ c ∈ tail.head?, ¬isDigit c ∧ c ≠ '.' := by
  cases power with
  | absent => rintro c ⟨⟩
  | marked begins =>
    rintro c ⟨rfl⟩
    rcases begins with rfl | rfl <;> decide

/-- What spells the digits before and after a point is read as these digits. -/
theorem SpellsMantissa.taken {mantissa whole tail : List Char} {fraction : Option (List Char)}
    (spells : SpellsMantissa mantissa whole fraction)
    (stop : ∀ c ∈ tail.head?, ¬isDigit c ∧ c ≠ '.') :
    (mantissa ++ tail).takeWhile isDigit = whole ∧
      takeFraction ((mantissa ++ tail).dropWhile isDigit) = (fraction, tail) ∧
      ¬(whole = [] ∧ fraction.getD [] = []) ∧
      ∀ c ∈ (mantissa ++ tail).head?, c ≠ '-' ∧ c ≠ '+' := by
  have stop' : ∀ c ∈ tail.head?, ¬isDigit c := fun c mem => (stop c mem).1
  have point (rest : List Char) : ∀ c ∈ ('.' :: rest).head?, ¬isDigit c := by
    rintro c ⟨rfl⟩
    decide
  cases spells with
  | whole digits =>
    obtain ⟨taken, dropped⟩ := span_digits digits.all stop'
    rw [taken, dropped]
    refine ⟨rfl, ?_, fun none => digits.ne_nil none.1, digits.head?_ne tail⟩
    unfold takeFraction
    split
    · exact absurd rfl (stop '.' rfl).2
    · rfl
  | pointed digits more =>
    rename_i fs
    have cut : (whole ++ '.' :: fs) ++ tail = whole ++ ('.' :: (fs ++ tail)) := by simp
    obtain ⟨taken, dropped⟩ := span_digits digits.all (point (fs ++ tail))
    obtain ⟨taken', dropped'⟩ := span_digits more stop'
    rw [cut, taken, dropped, takeFraction, taken', dropped']
    exact ⟨rfl, rfl, fun none => digits.ne_nil none.1, digits.head?_ne _⟩
  | fraction digits =>
    rename_i fs
    obtain ⟨taken', dropped'⟩ := span_digits digits.all stop'
    have none : isDigit '.' = false := rfl
    rw [List.cons_append, List.takeWhile_cons_of_neg (by simp [none]),
      List.dropWhile_cons_of_neg (by simp [none]), takeFraction, taken', dropped']
    refine ⟨rfl, rfl, fun none => digits.ne_nil none.2, ?_⟩
    rintro c ⟨rfl⟩
    decide

/-- Exactly the texts of a numeral are read as it: no others are accepted, and each has one
reading. -/
theorem scan?_eq_some_iff_spells : scan? s = some x ↔ Spells s x := by
  rw [scan?_eq]
  constructor
  · intro scanned
    obtain ⟨sign, negative, body, rfl, signs, taken⟩ := exists_takeSign_eq s
    rw [taken] at scanned
    rcases after : takeFraction (body.dropWhile isDigit) with ⟨fraction, tail⟩
    simp only [after] at scanned
    split at scanned
    · cases scanned
    · rename_i filled
      obtain ⟨exponent, read, rfl⟩ := Option.map_eq_some_iff.mp scanned
      obtain ⟨mantissa, cut, digits⟩ := spellsMantissa_of_takeFraction after filled
      have spelled := Spells.intro signs digits (scanExponent?_eq_some_iff.mp read)
      rwa [← cut] at spelled
  · -- Each part is taken up to where the next one begins, because of how that one begins.
    rintro ⟨signs, digits, power⟩
    obtain ⟨whole, fraction, filled, stop⟩ := digits.taken power.stop
    rw [takeSign_append signs stop]
    simp only [whole, fraction]
    rw [if_neg filled, scanExponent?_eq_some_iff.mpr power, Option.map_some]

/-! ## Values -/

/-- The absolute value of a numeral. -/
def magnitude (x : Numeral) : ℚ :=
  let fraction := x.fraction.getD []
  (natOfDigits x.whole + natOfDigits fraction / 10 ^ fraction.length) * 10 ^ x.exponent.getD 0

/-- The absolute value is one run of digits under a power of ten. -/
theorem magnitude_eq (x : Numeral) :
    x.magnitude = natOfDigits (x.whole ++ x.fraction.getD []) *
      10 ^ (x.exponent.getD 0 - (x.fraction.getD []).length) := by
  rw [magnitude, natOfDigits_append, zpow_sub₀ (by norm_num), zpow_natCast]
  push_cast
  field_simp

/-- A numeral without point and exponent is the integer that its sign and its digits make. -/
theorem toInt?_eq_some_iff {n : Int} :
    x.toInt? = some n ↔
      x.fraction = none ∧ x.exponent = none ∧ n = signed x.negative (natOfDigits x.whole) := by
  obtain ⟨negative, whole, fraction, exponent⟩ := x
  cases fraction <;> cases exponent <;> simp [toInt?, signed, eq_comm]

/-- `[+-]? digits`, with the integer that they stand for. -/
inductive SpellsInteger : List Char → Int → Prop
  | intro {sign ds : List Char} {negative : Bool} (signs : SpellsSign sign negative)
      (digits : IsDigits ds) : SpellsInteger (sign ++ ds) (signed negative (natOfDigits ds))

/-- A sign and digits spell a numeral without point and exponent. -/
theorem Spells.of_digits (signs : SpellsSign sign negative) (digits : IsDigits ds) :
    Spells (sign ++ ds) { negative, whole := ds, fraction := none, exponent := none } := by
  have alone := Spells.intro signs (.whole digits) .absent
  rwa [List.append_nil] at alone

/-- What stands for an integer spells a numeral. -/
theorem SpellsInteger.exists_spells {n : Int} (integer : SpellsInteger s n) :
    ∃ x, Spells s x := by
  obtain ⟨signs, digits⟩ := integer
  exact ⟨_, .of_digits signs digits⟩

/-- A text stands for an integer exactly if the numeral that it spells does. -/
theorem Spells.spellsInteger_iff {n : Int} (spells : Spells s x) :
    SpellsInteger s n ↔ x.toInt? = some n := by
  rw [toInt?_eq_some_iff]
  constructor
  · rintro ⟨signs, digits⟩
    have read := scan?_eq_some_iff_spells.mpr spells
    rw [scan?_eq_some_iff_spells.mpr (.of_digits signs digits)] at read
    cases read
    exact ⟨rfl, rfl, rfl⟩
  · rintro ⟨none, none', rfl⟩
    obtain ⟨signs, digits, power⟩ := spells
    cases digits with
    | whole digits =>
      cases power with
      | absent =>
        rw [List.append_nil]
        exact .intro signs digits
      | marked => cases none'
    | pointed | fraction => cases none

end Numeral

/-! ## Rounding -/

namespace Binary64

theorem two_pow_lt_ten_pow : (2 : ℚ) ^ 1200 < 10 ^ 400 := by
  calc (2 : ℚ) ^ 1200 = (2 ^ 3) ^ 400 := by rw [← pow_mul]
    _ < 10 ^ 400 := by
      gcongr
      norm_num

variable {digits : Nat} {exponent : Int}

/-- Powers of ten beyond the greatest that is rounded are infinite. -/
theorem leastInfinite_le_decimal (some : digits ≠ 0) (large : 400 < exponent) :
    leastInfinite ≤ digits * 10 ^ exponent := by
  have one_le : (1 : ℚ) ≤ digits := by exact_mod_cast Nat.one_le_iff_ne_zero.mpr some
  calc leastInfinite ≤ 2 ^ (53 : Int) * 2 ^ maxExponent := by
        unfold leastInfinite
        gcongr
        norm_num [hiddenBit]
    _ = 2 ^ (53 + maxExponent) := (zpow_add₀ two_ne_zero 53 maxExponent).symm
    _ ≤ 2 ^ ((1200 : Nat) : Int) := zpow_le_zpow_right₀ one_le_two (by decide)
    _ ≤ 10 ^ ((400 : Nat) : Int) := by
      rw [zpow_natCast, zpow_natCast]
      exact two_pow_lt_ten_pow.le
    _ ≤ 10 ^ exponent := zpow_le_zpow_right₀ (by norm_num) (by omega)
    _ ≤ digits * 10 ^ exponent := le_mul_of_one_le_left (by positivity) one_le

/-- Digits that are all behind the last place that is rounded are nothing. -/
theorem decimal_lt_of_small (small : exponent + digits.log2 + 1 < -400) :
    (digits * 10 ^ exponent : ℚ) < 2 ^ minExponent / 2 := by
  have length : (digits : ℚ) < 10 ^ (digits.log2 + 1) := by
    calc (digits : ℚ) < 2 ^ (digits.log2 + 1) := by exact_mod_cast Nat.lt_log2_self
      _ ≤ 10 ^ (digits.log2 + 1) := by
        gcongr
        norm_num
  calc (digits * 10 ^ exponent : ℚ) < 10 ^ (digits.log2 + 1) * 10 ^ exponent := by gcongr
    _ = 10 ^ (((digits.log2 + 1 : Nat) : Int) + exponent) := by
      rw [zpow_add₀ (by norm_num), zpow_natCast]
    _ ≤ 10 ^ (-((400 : Nat) : Int)) := zpow_le_zpow_right₀ (by norm_num) (by omega)
    _ ≤ 2 ^ (-((1200 : Nat) : Int)) := by
      rw [zpow_neg, zpow_neg, zpow_natCast, zpow_natCast]
      gcongr
      exact two_pow_lt_ten_pow.le
    _ ≤ 2 ^ (minExponent - 1) := zpow_le_zpow_right₀ one_le_two (by decide)
    _ = 2 ^ minExponent / 2 := zpow_sub_one₀ two_ne_zero _

/-- A decimal is rounded to the nearest number. -/
theorem roundsTo_ofDecimal? (negative : Bool) (digits : Nat) (exponent : Int) :
    RoundsTo negative (digits * 10 ^ exponent) (ofDecimal? negative digits exponent) := by
  unfold ofDecimal?
  split_ifs with none large small nonneg
  · rw [none, Nat.cast_zero, zero_mul]
    exact roundsTo_zero negative le_rfl (by positivity)
  · exact .infinite (leastInfinite_le_decimal none large)
  · exact roundsTo_zero negative (by positivity) (decimal_lt_of_small small)
  · obtain ⟨k, rfl⟩ := Int.eq_ofNat_of_zero_le nonneg
    have rounded := roundsTo_ofRatio? negative (digits * 10 ^ k) one_pos
    push_cast at rounded
    rwa [div_one, ← zpow_natCast] at rounded
  · obtain ⟨k, rfl⟩ : ∃ k : Nat, exponent = -(k : Int) := ⟨(-exponent).toNat, by omega⟩
    have rounded := roundsTo_ofRatio? negative digits (Nat.pow_pos (n := k) (by norm_num : 0 < 10))
    push_cast at rounded
    rw [div_eq_mul_inv, ← zpow_natCast, ← zpow_neg] at rounded
    rwa [neg_neg, Int.toNat_natCast]

end Binary64

/-- A numeral is rounded to the nearest number. -/
theorem Numeral.roundsTo_toBinary64? (x : Numeral) :
    Binary64.RoundsTo x.negative x.magnitude x.toBinary64? := by
  rw [magnitude_eq]
  exact Binary64.roundsTo_ofDecimal? _ _ _

/-! ## Natural numbers -/

theorem spells_of_scanNatural? {bound n : Nat} {s : List Char} (read : scanNatural? bound s = some n) :
    ∃ sign ds, s = sign ++ ds ∧ Numeral.SpellsSign sign false ∧ IsDigits ds ∧ natOfDigits ds = n ∧
      n < bound := by
  have digits {ds : List Char} (read : (if ds.isEmpty || !ds.all isDigit then none
      else if natOfDigits ds < bound then some (natOfDigits ds) else none) = some n) :
      IsDigits ds ∧ natOfDigits ds = n ∧ n < bound := by
    simp only [Option.ite_none_left_eq_some, Option.ite_none_right_eq_some, Option.some.injEq,
      Bool.not_eq_true] at read
    obtain ⟨all, below, rfl⟩ := read
    exact ⟨isDigits_iff.mpr all, rfl, below⟩
  unfold scanNatural? at read
  split at read
  next rest => exact ⟨['+'], rest, rfl, .plus, digits read⟩
  next => exact ⟨[], s, rfl, .unsigned, digits read⟩

end EntityQuery.Decimal
