import EntityQuery.Text.Blank
import EntityQuery.Text.Split
import Mathlib.Data.List.DropRight
import Mathlib.Data.List.Forall2

/-!
# Pieces, letter case and trimmed ends

What cutting a text at separators, setting it in lower case and trimming its ends
come to.

## Main Definitions

* `Text.IsLastPiece`: a piece stands behind the last separator.
* `Text.InAnyCase`: a text has the letters of a name, each in either case.
* `Text.IsTrimmed`: a text has no blank at either end.

## Main Statements

* `Text.splitOn_eq_splitOnP`: the pieces are those of `List.splitOnP`.
* `Text.getLast?_splitOn_eq_some_iff`: the last piece.
* `Text.cutFirst_eq_some_iff`, `Text.cutLast_eq_some_iff`: the two sides of the
  first place of a character, and of the last.
* `Text.cutFirstPair_eq_some_iff`: the two sides of the first place where a
  character stands twice.
* `Text.mem_intercalate`: what stands in texts side by side.
* `Text.lowerAscii_eq_iff`: which texts have a name in lower case.
* `Text.exists_trimEnd_append`, `Text.exists_trim_append`: a text is its trimmed
  form and blanks.
* `Text.getElem?_trimEnd`: what is no blank stays in its place.
* `Text.IsTrimmed.trim_append`: what is left between blanks.
-/

namespace EntityQuery.Text

/-! ## Pieces -/

section Pieces

variable {isSeparator : Char → Bool} {s : List Char}

theorem splitOn_eq_splitOnP (isSeparator : Char → Bool) (s : List Char) :
    splitOn isSeparator s = s.splitOnP isSeparator := by
  induction s with
  | nil => rfl
  | cons c s ih =>
    rw [splitOn, List.splitOnP_cons_eq_if_modifyHead, ih]
    obtain ⟨piece, pieces, cut⟩ := List.exists_cons_of_ne_nil (List.splitOnP_ne_nil isSeparator s)
    rw [cut]
    rfl

theorem splitOn_append_cons {c : Char} (separates : isSeparator c) (s t : List Char) :
    splitOn isSeparator (s ++ c :: t) = splitOn isSeparator s ++ splitOn isSeparator t := by
  simp only [splitOn_eq_splitOnP]
  exact List.splitOnP_append_cons s t separates

/-- A text without a separator is its only piece. -/
theorem splitOn_eq_singleton (flat : ∀ c ∈ s, isSeparator c = false) :
    splitOn isSeparator s = [s] := by
  rw [splitOn_eq_splitOnP]
  exact List.splitOnP_eq_singleton flat

/-- No piece has a separator in it. -/
theorem flat_of_mem_splitOn {piece : List Char} (mem : piece ∈ splitOn isSeparator s) :
    ∀ c ∈ piece, isSeparator c = false := by
  induction s generalizing piece with
  | nil =>
    cases List.mem_singleton.mp mem
    nofun
  | cons c s ih =>
    rw [splitOn] at mem
    by_cases separates : isSeparator c
    · rw [if_pos separates] at mem
      rcases List.mem_cons.mp mem with rfl | mem
      · nofun
      · exact ih mem
    · obtain ⟨first, pieces, cut⟩ := List.exists_cons_of_ne_nil (splitOn_ne_nil isSeparator s)
      rw [if_neg separates, cut] at mem
      rw [cut] at ih
      rcases List.mem_cons.mp mem with rfl | mem
      · exact List.forall_mem_cons.mpr ⟨Bool.eq_false_iff.mpr separates, ih List.mem_cons_self⟩
      · exact ih (List.mem_cons_of_mem first mem)

/-- Separators at the end leave empty pieces. -/
theorem splitOn_append_separators (s : List Char) {separators : List Char}
    (separate : ∀ c ∈ separators, isSeparator c) :
    splitOn isSeparator (s ++ separators) =
      splitOn isSeparator s ++ List.replicate separators.length [] := by
  induction separators generalizing s with
  | nil => rw [List.append_nil, List.length_nil, List.replicate_zero, List.append_nil]
  | cons c separators ih =>
    obtain ⟨separates, separate⟩ := List.forall_mem_cons.mp separate
    have later := ih [] separate
    rw [List.nil_append] at later
    rw [splitOn_append_cons separates, later, List.length_cons, List.replicate_succ]
    rfl

/-- A piece is what stands behind the last separator of a text. -/
def IsLastPiece (isSeparator : Char → Bool) (piece s : List Char) : Prop :=
  ∃ front, s = front ++ piece ∧ (∀ c ∈ front.getLast?, isSeparator c) ∧
    ∀ c ∈ piece, isSeparator c = false

theorem exists_isLastPiece (isSeparator : Char → Bool) (s : List Char) :
    ∃ piece, IsLastPiece isSeparator piece s := by
  refine ⟨s.rtakeWhile (!isSeparator ·), s.rdropWhile (!isSeparator ·), ?_, fun c last => ?_,
    fun c mem => ?_⟩
  · exact List.rdropWhile_append_rtakeWhile.symm
  · obtain ⟨some_char, rfl⟩ := List.mem_getLast?_eq_getLast last
    have := List.rdropWhile_last_not (!isSeparator ·) s some_char
    simpa using this
  · simpa using List.mem_rtakeWhile_imp mem

theorem IsLastPiece.exists_splitOn {piece : List Char} (last : IsLastPiece isSeparator piece s) :
    ∃ pieces, splitOn isSeparator s = pieces ++ [piece] := by
  obtain ⟨front, rfl, separates, flat⟩ := last
  rcases List.eq_nil_or_concat front with rfl | ⟨front, c, rfl⟩
  · exact ⟨[], splitOn_eq_singleton flat⟩
  · rw [List.concat_eq_append] at separates ⊢
    have separates := separates c (List.getLast?_concat ..)
    rw [List.append_assoc, List.singleton_append, splitOn_append_cons separates,
      splitOn_eq_singleton flat]
    exact ⟨_, rfl⟩

/-- The last piece is what stands behind the last separator. -/
theorem getLast?_splitOn_eq_some_iff {piece : List Char} :
    (splitOn isSeparator s).getLast? = some piece ↔ IsLastPiece isSeparator piece s := by
  have computed : ∀ {piece}, IsLastPiece isSeparator piece s →
      (splitOn isSeparator s).getLast? = some piece := by
    intro piece last
    obtain ⟨pieces, cut⟩ := last.exists_splitOn
    rw [cut, List.getLast?_concat]
  refine ⟨fun last => ?_, computed⟩
  obtain ⟨other, isLast⟩ := exists_isLastPiece isSeparator s
  rw [computed isLast, Option.some.injEq] at last
  exact last ▸ isLast

end Pieces

/-! ## The first place of a character -/

section Cut

variable {c : Char} {s before after : List Char}

theorem cutFirst_append_cons (absent : c ∉ before) (after : List Char) :
    cutFirst c (before ++ c :: after) = some (before, after) := by
  induction before with
  | nil => rw [List.nil_append, cutFirst, if_pos rfl]
  | cons d before ih =>
    obtain ⟨other, absent⟩ := not_or.mp (mt List.mem_cons.mpr absent)
    rw [List.cons_append, cutFirst, if_neg (Ne.symm other), ih absent, Option.map_some]

theorem cutFirst_eq_none (absent : c ∉ s) : cutFirst c s = none := by
  induction s with
  | nil => rfl
  | cons d s ih =>
    obtain ⟨other, absent⟩ := not_or.mp (mt List.mem_cons.mpr absent)
    rw [cutFirst, if_neg (Ne.symm other), ih absent, Option.map_none]

/-- A text is cut at the first place of the character. -/
theorem cutFirst_eq_some_iff :
    cutFirst c s = some (before, after) ↔ s = before ++ c :: after ∧ c ∉ before := by
  constructor
  · intro cut
    by_cases mem : c ∈ s
    · obtain ⟨before', after', rfl, absent⟩ := List.eq_append_cons_of_mem mem
      rw [cutFirst_append_cons absent] at cut
      cases cut
      exact ⟨rfl, absent⟩
    · rw [cutFirst_eq_none mem] at cut
      cases cut
  · rintro ⟨rfl, absent⟩
    exact cutFirst_append_cons absent after

theorem cutFirst_eq_none_iff : cutFirst c s = none ↔ c ∉ s := by
  refine ⟨fun uncut mem => ?_, cutFirst_eq_none⟩
  obtain ⟨before, after, rfl, absent⟩ := List.eq_append_cons_of_mem mem
  rw [cutFirst_append_cons absent] at uncut
  cases uncut

/-! ## The last place of a character -/

/-- A character that stands in a text has a last place there. -/
theorem exists_last_place (mem : c ∈ s) : ∃ before after, s = before ++ c :: after ∧ c ∉ after := by
  obtain ⟨after, before, mirrored, absent⟩ := List.eq_append_cons_of_mem (List.mem_reverse.mpr mem)
  refine ⟨before.reverse, after.reverse, ?_, mt List.mem_reverse.mp absent⟩
  rw [← List.reverse_reverse s, mirrored]
  simp

theorem cutLast_eq_none (absent : c ∉ s) : cutLast c s = none := by
  induction s with
  | nil => rfl
  | cons d s ih =>
    obtain ⟨other, absent⟩ := not_or.mp (mt List.mem_cons.mpr absent)
    simp only [cutLast, ih absent]
    exact if_neg (Ne.symm other)

theorem cutLast_append_cons (before : List Char) (absent : c ∉ after) :
    cutLast c (before ++ c :: after) = some (before, after) := by
  induction before with
  | nil => simp [cutLast, cutLast_eq_none absent]
  | cons d before ih => simp [cutLast, ih]

/-- A text is cut at the last place of the character. -/
theorem cutLast_eq_some_iff :
    cutLast c s = some (before, after) ↔ s = before ++ c :: after ∧ c ∉ after := by
  constructor
  · intro cut
    by_cases mem : c ∈ s
    · obtain ⟨before', after', rfl, absent⟩ := exists_last_place mem
      rw [cutLast_append_cons before' absent] at cut
      cases cut
      exact ⟨rfl, absent⟩
    · rw [cutLast_eq_none mem] at cut
      cases cut
  · rintro ⟨rfl, absent⟩
    exact cutLast_append_cons before absent

/-! ## The first pair of a character -/

theorem cutFirstPair_append_cons (single : ¬[c, c] <:+: before) (other : before.getLast? ≠ some c)
    (after : List Char) : cutFirstPair c (before ++ c :: c :: after) = some (before, after) := by
  induction before with
  | nil => simp [cutFirstPair]
  | cons d before ih =>
    obtain ⟨start, single⟩ := not_or.mp (mt List.infix_cons_iff.mpr single)
    cases before with
    | nil =>
      have other : d ≠ c := by simpa using other
      simp [cutFirstPair, other]
    | cons e before =>
      have start : ¬(d = c ∧ e = c) := by
        rintro ⟨rfl, rfl⟩
        exact start ⟨before, rfl⟩
      have rest := ih single (by simpa [List.getLast?_cons_cons] using other)
      rw [List.cons_append] at rest
      simp only [List.cons_append, cutFirstPair, if_neg start, rest, Option.map_some]

/-- A text is cut at the first place where the character stands twice.  That is the place behind
`before` only if `before` does not end in the character, as it would otherwise come one earlier. -/
theorem cutFirstPair_eq_some_iff :
    cutFirstPair c s = some (before, after) ↔
      s = before ++ c :: c :: after ∧ ¬[c, c] <:+: before ∧ before.getLast? ≠ some c := by
  constructor
  · intro cut
    fun_induction cutFirstPair c s generalizing before with
    | case1 => cases cut
    | case2 => cases cut
    | case3 d e rest twice =>
      obtain ⟨rfl, rfl⟩ := twice
      cases cut
      simp
    | case4 d e rest start ih =>
      obtain ⟨⟨before, after⟩, cut, ⟨⟩⟩ := Option.map_eq_some_iff.mp cut
      obtain ⟨whole, single, other⟩ := ih cut
      refine ⟨congrArg (d :: ·) whole, fun inside => ?_, fun last => ?_⟩
      · rcases List.infix_cons_iff.mp inside with ⟨t, front⟩ | inside
        · obtain ⟨rfl, rfl⟩ := List.cons.inj front
          exact start ⟨rfl, (List.cons.inj whole).1⟩
        · exact single inside
      · cases before with
        | nil =>
          have first : d = c := by simpa using last
          exact start ⟨first, (List.cons.inj whole).1⟩
        | cons f before => exact other (by simpa [List.getLast?_cons_cons] using last)
  · rintro ⟨rfl, single, other⟩
    exact cutFirstPair_append_cons single other after

end Cut

/-! ## Texts side by side, and numbers -/

/-- What stands in texts side by side stands between two of them or in one. -/
theorem mem_intercalate {sep : List Char} {texts : List (List Char)} {c : Char}
    (mem : c ∈ sep.intercalate texts) :
    c ∈ sep ∨ ∃ text ∈ texts, c ∈ text := by
  induction texts with
  | nil => cases mem
  | cons first rest ih =>
    cases rest with
    | nil =>
      rw [List.intercalate_singleton] at mem
      exact .inr ⟨first, List.mem_cons_self, mem⟩
    | cons second rest =>
      rw [List.intercalate_cons_cons, List.mem_append, List.mem_append] at mem
      rcases mem with (mem | mem) | mem
      · exact .inr ⟨first, List.mem_cons_self, mem⟩
      · exact .inl mem
      · exact (ih mem).imp_right fun ⟨text, there, mem⟩ =>
          ⟨text, List.mem_cons_of_mem _ there, mem⟩

theorem isDigit_of_mem_toString {n : Nat} {c : Char} (mem : c ∈ (toString n).toList) :
    c.isDigit := by
  rw [Nat.toString_eq_repr, Nat.toList_repr] at mem
  exact Nat.isDigit_of_mem_toDigits (by decide) (by decide) mem

/-! ## Letter case -/

theorem toNat_toLower (c : Char) :
    c.toLower.toNat = if 0x41 ≤ c.toNat ∧ c.toNat ≤ 0x5A then c.toNat + 0x20 else c.toNat := by
  have upper : (c.val ≥ 'A'.val ∧ c.val ≤ 'Z'.val) ↔ 0x41 ≤ c.toNat ∧ c.toNat ≤ 0x5A := Iff.rfl
  delta Char.toLower
  simp only [upper]
  split
  · rename_i bounds
    have high : c.val.toNat ≤ 0x5A := bounds.2
    change (c.val + 0x20).toNat = c.val.toNat + 0x20
    rw [UInt32.toNat_add]
    change (c.val.toNat + 0x20) % 4294967296 = _
    omega
  · rfl

theorem toNat_toUpper (c : Char) :
    c.toUpper.toNat = if 0x61 ≤ c.toNat ∧ c.toNat ≤ 0x7A then c.toNat - 0x20 else c.toNat := by
  have lower : (c.val ≥ 'a'.val ∧ c.val ≤ 'z'.val) ↔ 0x61 ≤ c.toNat ∧ c.toNat ≤ 0x7A := Iff.rfl
  delta Char.toUpper
  simp only [lower]
  split
  · rename_i bounds
    have low : 0x61 ≤ c.val.toNat := bounds.1
    have high : c.val.toNat ≤ 0x7A := bounds.2
    -- The difference of the two cases is added modulo the size of a word.
    change (c.val + ('A'.val - 'a'.val)).toNat = c.val.toNat - 0x20
    rw [UInt32.toNat_add]
    change (c.val.toNat + 0xFFFFFFE0) % 4294967296 = _
    omega
  · rfl

/-- A lower letter is what both its cases become in lower case, and nothing else becomes it. -/
theorem toLower_eq_iff {c letter : Char} (lower : 0x61 ≤ letter.toNat ∧ letter.toNat ≤ 0x7A) :
    c.toLower = letter ↔ c = letter ∨ c = letter.toUpper := by
  simp only [← Char.toNat_inj, toNat_toLower, toNat_toUpper, if_pos lower]
  grind

/-- A text has the letters of a name, each in either case. -/
def InAnyCase (name s : String) : Prop :=
  List.Forall₂ (fun letter c => c = letter ∨ c = letter.toUpper) name.toList s.toList

theorem lowerAscii_eq_iff {name s : String}
    (lower : ∀ letter ∈ name.toList, 0x61 ≤ letter.toNat ∧ letter.toNat ≤ 0x7A) :
    lowerAscii s = name ↔ InAnyCase name s := by
  have letters {letters chars : List Char}
      (lower : ∀ letter ∈ letters, 0x61 ≤ letter.toNat ∧ letter.toNat ≤ 0x7A) :
      chars.map Char.toLower = letters ↔
        List.Forall₂ (fun letter c => c = letter ∨ c = letter.toUpper) letters chars := by
    induction letters generalizing chars with
    | nil => rw [List.map_eq_nil_iff, List.forall₂_nil_left_iff]
    | cons letter letters ih =>
      obtain ⟨first, lower⟩ := List.forall_mem_cons.mp lower
      cases chars with
      | nil => simp
      | cons c chars => rw [List.map_cons, List.cons.injEq, toLower_eq_iff first, ih lower,
          List.forall₂_cons]
  rw [InAnyCase, ← letters lower, lowerAscii, ← String.toList_inj, String.toList_ofList]

/-! ## Trimmed ends -/

/-- No visible ASCII character is blank. -/
theorem isBlank_of_visible {c : Char} (low : 0x20 < c.toNat) (high : c.toNat < 0x7F) :
    isBlank c = false := by
  simp only [isBlank, Bool.or_eq_false_iff, Bool.and_eq_false_iff, decide_eq_false_iff_not,
    beq_eq_false_iff_ne]
  omega

/-- Lower case keeps blanks. -/
theorem toLower_of_blank {c : Char} (blank : isBlank c) : c.toLower = c := by
  unfold Char.toLower
  split
  · rename_i upper
    have bounds : 0x41 ≤ c.toNat ∧ c.toNat ≤ 0x5A := upper
    have solid : isBlank c = false := isBlank_of_visible (by omega) (by omega)
    exact Bool.noConfusion (solid.symm.trans blank)
  · rfl

/-- A text that has no blanks in lower case has none. -/
theorem solid_of_toLower {s : List Char} (solid : ∀ c ∈ s.map Char.toLower, isBlank c = false) :
    ∀ c ∈ s, isBlank c = false := by
  intro c mem
  by_contra other
  have lower := solid _ (List.mem_map_of_mem mem)
  rw [toLower_of_blank (by simpa using other)] at lower
  exact other lower

section TrimEnd

variable {s : List Char}

theorem trimEnd_eq_rdropWhile (s : List Char) : trimEnd s = s.rdropWhile isBlank :=
  rfl

/-- A text is its trimmed form with blanks behind it. -/
theorem exists_trimEnd_append (s : List Char) :
    ∃ blanks, (∀ c ∈ blanks, isBlank c) ∧ trimEnd s ++ blanks = s :=
  ⟨s.rtakeWhile isBlank, fun _ mem => List.mem_rtakeWhile_imp mem, by
    rw [trimEnd_eq_rdropWhile, List.rdropWhile_append_rtakeWhile]⟩

theorem trimEnd_isPrefix (s : List Char) : trimEnd s <+: s :=
  List.rdropWhile_prefix isBlank s

/-- What begins the trimmed text begins the text. -/
theorem mem_head?_of_trimEnd {c : Char} (first : c ∈ (trimEnd s).head?) : c ∈ s.head? := by
  obtain ⟨back, whole⟩ := trimEnd_isPrefix s
  rw [← whole, List.head?_append, Option.mem_def.mp first, Option.some_or]
  rfl

/-- A trimmed text does not end in a blank. -/
theorem isBlank_getLast?_trimEnd (s : List Char) :
    ∀ c ∈ (trimEnd s).getLast?, isBlank c = false := by
  intro c last
  obtain ⟨some_char, rfl⟩ := List.mem_getLast?_eq_getLast last
  exact Bool.eq_false_iff.mpr (List.rdropWhile_last_not isBlank s some_char)

/-- What is no blank stays in its place. -/
theorem getElem?_trimEnd {i : Nat} {c : Char} (there : s[i]? = some c) (other : isBlank c = false) :
    (trimEnd s)[i]? = some c := by
  obtain ⟨blanks, blank, whole⟩ := exists_trimEnd_append s
  rw [← whole] at there
  by_cases inside : i < (trimEnd s).length
  · rwa [List.getElem?_append_left inside] at there
  · rw [List.getElem?_append_right (Nat.not_lt.mp inside)] at there
    have none := blank c (List.mem_of_getElem? there)
    rw [other] at none
    cases none

end TrimEnd

/-! ## Trimmed texts -/

section Trim

variable {s t front back : List Char}

/-- A text begins and ends with something other than a blank, if with anything. -/
structure IsTrimmed (s : List Char) : Prop where
  front : ∀ c ∈ s.head?, isBlank c = false
  back : ∀ c ∈ s.getLast?, isBlank c = false

/-- A text without blanks is trimmed. -/
theorem IsTrimmed.of_forall (solid : ∀ c ∈ s, isBlank c = false) : IsTrimmed s :=
  ⟨fun c mem => solid c (List.mem_of_mem_head? mem), fun c mem => solid c (List.mem_of_getLast? mem)⟩

theorem trimStart_append_of_blank (blank : ∀ c ∈ front, isBlank c) (s : List Char) :
    trimStart (front ++ s) = trimStart s :=
  List.dropWhile_append_of_pos blank

theorem trimEnd_append_of_blank (blank : ∀ c ∈ back, isBlank c) (s : List Char) :
    trimEnd (s ++ back) = trimEnd s := by
  have blank' : ∀ c ∈ back.reverse, isBlank c := fun c mem => blank c (List.mem_reverse.mp mem)
  rw [trimEnd, List.reverse_append, List.dropWhile_append_of_pos blank', ← trimEnd]

theorem trimStart_eq_self (solid : ∀ c ∈ s.head?, isBlank c = false) : trimStart s = s := by
  cases s with
  | nil => rfl
  | cons c s => exact List.dropWhile_cons_of_neg (Bool.eq_false_iff.mp (solid c rfl))

theorem trimEnd_eq_self (solid : ∀ c ∈ s.getLast?, isBlank c = false) : trimEnd s = s := by
  rw [trimEnd_eq_rdropWhile, List.rdropWhile_eq_self_iff]
  exact fun some_char => Bool.eq_false_iff.mp (solid _ (List.getLast?_eq_some_getLast some_char))

/-- Between blanks a trimmed text is left. -/
theorem IsTrimmed.trim_append (trimmed : IsTrimmed t) (blankFront : ∀ c ∈ front, isBlank c)
    (blankBack : ∀ c ∈ back, isBlank c) : trim (front ++ (t ++ back)) = t := by
  rw [trim, trimStart_append_of_blank blankFront]
  cases t with
  | nil =>
    have none : trimStart back = [] := by
      simpa using trimStart_append_of_blank blankBack []
    rw [List.nil_append, none, trimEnd_nil]
  | cons c t =>
    have kept : trimStart (c :: t ++ back) = c :: t ++ back := trimStart_eq_self trimmed.front
    rw [kept, trimEnd_append_of_blank blankBack, trimEnd_eq_self trimmed.back]

theorem blank_nil : ∀ c ∈ ([] : List Char), isBlank c := nofun

theorem IsTrimmed.trim_append_blank (trimmed : IsTrimmed t) (blank : ∀ c ∈ back, isBlank c) :
    trim (t ++ back) = t :=
  trimmed.trim_append blank_nil blank

theorem IsTrimmed.trim_blank_append (trimmed : IsTrimmed t) (blank : ∀ c ∈ front, isBlank c) :
    trim (front ++ t) = t := by
  simpa using trimmed.trim_append blank blank_nil

theorem IsTrimmed.trim_eq (trimmed : IsTrimmed t) : trim t = t :=
  trimmed.trim_blank_append blank_nil

/-- Blanks alone leave nothing. -/
theorem trim_of_blank (blank : ∀ c ∈ s, isBlank c) : trim s = [] :=
  (IsTrimmed.of_forall nofun : IsTrimmed []).trim_append_blank blank

theorem isTrimmed_trim (s : List Char) : IsTrimmed (trim s) := by
  refine ⟨fun c first => ?_, isBlank_getLast?_trimEnd _⟩
  have stop := List.head?_dropWhile_not isBlank s
  have first : (s.dropWhile isBlank).head? = some c := mem_head?_of_trimEnd first
  rw [first] at stop
  exact stop

/-- A text is its trimmed form between blanks. -/
theorem exists_trim_append (s : List Char) :
    ∃ front back, (∀ c ∈ front, isBlank c) ∧ (∀ c ∈ back, isBlank c) ∧
      s = front ++ (trim s ++ back) := by
  obtain ⟨back, blank, whole⟩ := exists_trimEnd_append (trimStart s)
  refine ⟨s.takeWhile isBlank, back, fun c mem => List.mem_takeWhile_imp mem, blank, ?_⟩
  rw [trim, whole]
  exact List.takeWhile_append_dropWhile.symm

/-- Blanks at the end are trimmed once. -/
theorem trim_trimEnd (s : List Char) : trim (trimEnd s) = trim s := by
  obtain ⟨back', blank', whole⟩ := exists_trimEnd_append s
  obtain ⟨front, back, blankFront, blankBack, cut⟩ := exists_trim_append (trimEnd s)
  rw [cut, List.append_assoc, List.append_assoc] at whole
  conv_rhs => rw [← whole]
  exact ((isTrimmed_trim (trimEnd s)).trim_append blankFront
    (List.forall_mem_append.mpr ⟨blankBack, blank'⟩)).symm

theorem mem_of_mem_trim {c : Char} (mem : c ∈ trim s) : c ∈ s := by
  obtain ⟨front, back, -, -, whole⟩ := exists_trim_append s
  rw [whole]
  exact List.mem_append_right front (List.mem_append_left back mem)

/-- What is no blank is not trimmed away. -/
theorem mem_trim_of_solid {c : Char} (mem : c ∈ s) (solid : isBlank c = false) : c ∈ trim s := by
  obtain ⟨front, back, blankFront, blankBack, whole⟩ := exists_trim_append s
  rw [whole, List.mem_append, List.mem_append] at mem
  rcases mem with mem | mem | mem
  · exact absurd (blankFront c mem) (Bool.eq_false_iff.mp solid)
  · exact mem
  · exact absurd (blankBack c mem) (Bool.eq_false_iff.mp solid)

theorem trimStart_append_of_solid (solid : ∃ c ∈ front, isBlank c = false) (s : List Char) :
    trimStart (front ++ s) = trimStart front ++ s := by
  have some_char : front.dropWhile isBlank ≠ [] := by
    rw [Ne, List.dropWhile_eq_nil_iff]
    obtain ⟨c, mem, solid⟩ := solid
    exact fun blank => Bool.eq_false_iff.mp solid (blank c mem)
  rw [trimStart, List.dropWhile_append, if_neg (mt List.isEmpty_iff.mp some_char), ← trimStart]

theorem trimEnd_append_of_solid (solid : ∃ c ∈ back, isBlank c = false) (s : List Char) :
    trimEnd (s ++ back) = s ++ trimEnd back := by
  have solid' : ∃ c ∈ back.reverse, isBlank c = false := by simpa only [List.mem_reverse] using solid
  have start := trimStart_append_of_solid solid' s.reverse
  rw [trimStart, trimStart] at start
  rw [trimEnd, List.reverse_append, start, List.reverse_append, List.reverse_reverse, ← trimEnd]

theorem trimEnd_cons_of_solid {c : Char} (solid : isBlank c = false) (s : List Char) :
    trimEnd (c :: s) = c :: trimEnd s := by
  have alone : trimEnd [c] = [c] := trimEnd_eq_self fun d last => by
    cases last
    exact solid
  by_cases some_char : ∃ d ∈ s, isBlank d = false
  · exact trimEnd_append_of_solid some_char [c]
  · have blank : ∀ d ∈ s, isBlank d := by simpa using some_char
    have none : trimEnd s = [] := trimEnd_append_of_blank blank []
    rw [none, ← alone]
    exact trimEnd_append_of_blank blank [c]

/-- Up to a character that is no blank, the end of a text is trimmed by itself. -/
theorem trimEnd_append_cons {c : Char} (solid : isBlank c = false) (s t : List Char) :
    trimEnd (s ++ c :: t) = s ++ c :: trimEnd t := by
  rw [trimEnd_append_of_solid ⟨c, List.mem_cons_self, solid⟩, trimEnd_cons_of_solid solid]

/-- What stands between others that are no blanks is not trimmed away. -/
theorem mem_trim_of_between (solidFront : ∃ c ∈ front, isBlank c = false) (c : Char)
    (solidBack : ∃ c ∈ back, isBlank c = false) : c ∈ trim (front ++ c :: back) := by
  rw [trim, trimStart_append_of_solid solidFront, List.append_cons,
    trimEnd_append_of_solid solidBack]
  simp

end Trim

end EntityQuery.Text
