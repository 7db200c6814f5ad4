import EntityQuery.Domain.Name
import EntityQuery.Proofs.Text

/-!
# The characters of a domain name

A label is refused if one of its characters is forbidden, and its ASCII form is
written after that.  What the form adds is a mark, a hyphen and digits of base
36, so the name that is looked up has no forbidden character either.

## Main Definitions

* `Domain.Punycode.IsDigit`: a digit of base 36.
* `Domain.Allowed`: no character of a text is forbidden.

## Main Statements

* `Domain.Punycode.mem_encode`: what stands in the ASCII form of a label.
* `Domain.allowed_asciiName?`: nothing forbidden stands in a name.
-/

namespace EntityQuery.Domain

/-! ## Digits -/

namespace Punycode

/-- A digit of base 36. -/
def IsDigit (c : Char) : Prop :=
  ∃ n < 36, c = digit n

theorem threshold_le (bias k : Nat) : threshold bias k ≤ 26 := by
  unfold threshold
  split <;> omega

theorem isDigit_of_mem_numberText {bias fuel number k : Nat} {c : Char}
    (mem : c ∈ numberText bias fuel number k) : IsDigit c := by
  induction fuel generalizing number k with
  | zero => cases mem
  | succ fuel ih =>
    have small := threshold_le bias k
    simp only [numberText] at mem
    split at mem
    · exact ⟨number, by omega, List.mem_singleton.mp mem⟩
    · rcases List.mem_cons.mp mem with rfl | mem
      · have := Nat.mod_lt (number - threshold bias k) (show 0 < 36 - threshold bias k by omega)
        exact ⟨_, by omega, rfl⟩
      · exact ih mem

/-- A writer has written nothing but digits. -/
def Writer.WritesDigits (w : Writer) : Prop :=
  ∀ c ∈ w.reversed, IsDigit c

namespace Writer.WritesDigits

variable {w : Writer}

/-- How many places a writer has passed is no part of what it has written. -/
theorem withPassed (digits : w.WritesDigits) (passed : Nat) : { w with passed }.WritesDigits :=
  digits

/-- One character of the label adds a number or nothing. -/
theorem pass (digits : w.WritesDigits) (n basic : Nat) (c : Char) :
    (w.pass n basic c).WritesDigits := by
  unfold Writer.pass
  split
  · exact digits
  split
  · intro d mem
    rcases List.mem_append.mp mem with mem | mem
    · exact isDigit_of_mem_numberText (List.mem_reverse.mp mem)
    · exact digits d mem
  · exact digits

theorem foldl_pass (digits : w.WritesDigits) (n basic : Nat) (label : List Char) :
    (label.foldl (Writer.pass n basic) w).WritesDigits :=
  List.foldlRecOn label _ digits fun _ digits c _ => digits.pass n basic c

theorem placeFrom (digits : w.WritesDigits) (label : List Char) (basic fuel n : Nat) :
    ∀ c ∈ Writer.placeFrom label basic fuel n w, IsDigit c := by
  induction fuel generalizing n w with
  | zero => exact fun c mem => digits c (List.mem_reverse.mp mem)
  | succ fuel ih =>
    simp only [Writer.placeFrom]
    split
    · exact fun c mem => digits c (List.mem_reverse.mp mem)
    · exact ih ((digits.withPassed _).foldl_pass _ _ label |>.withPassed _) _

end Writer.WritesDigits

theorem mem_encode {label : List Char} {c : Char} (mem : c ∈ encode label) :
    c ∈ label ∨ c = '-' ∨ IsDigit c := by
  simp only [encode] at mem
  rcases List.mem_append.mp mem with mem | mem
  · split at mem
    · cases mem
    · rcases List.mem_append.mp mem with mem | mem
      · exact .inl (List.mem_of_mem_filter mem)
      · exact .inr (.inl (List.mem_singleton.mp mem))
  · have start : Writer.WritesDigits ⟨0, 72, (label.filter (·.toNat < 0x80)).length, []⟩ :=
      fun _ mem => nomatch mem
    exact .inr (.inr (start.placeFrom label _ _ _ c mem))

end Punycode

/-! ## Labels and names -/

theorem isForbidden_digit : ∀ n < 36, isForbidden (Punycode.digit n) = false := by
  decide +kernel

/-- No character of a text is forbidden. -/
def Allowed (s : List Char) : Prop :=
  ∀ c ∈ s, isForbidden c = false

theorem Allowed.asciiForm {letters : List Char} (allowed : Allowed letters) :
    Allowed (Label.asciiForm letters) := by
  unfold Label.asciiForm
  split
  · exact allowed
  have mark : Allowed asciiMark := by simp [Allowed, asciiMark, isForbidden]
  intro c mem
  rcases List.mem_append.mp mem with mem | mem
  · exact mark c mem
  rcases Punycode.mem_encode mem with mem | rfl | ⟨n, small, rfl⟩
  · exact allowed c mem
  · decide
  · exact isForbidden_digit n small

theorem allowed_ofMapped? {s : List Char} {label : Label}
    (read : Label.ofMapped? s = some label) : Allowed label.ascii := by
  unfold Label.ofMapped? at read
  split at read
  case isTrue => cases read
  case isFalse lacks =>
    have allowed : Allowed s := by simpa [Allowed] using lacks
    split at read
    · obtain ⟨letters, -, rfl⟩ := Option.map_eq_some_iff.mp read
      exact allowed
    split at read
    · cases read
      exact allowed.asciiForm
    · cases read

theorem exists_of_mem_mapM {α β : Type} {f : α → Option β} {xs : List α} {ys : List β} {y : β}
    (read : xs.mapM f = some ys) (mem : y ∈ ys) : ∃ x, f x = some y := by
  induction xs generalizing ys with
  | nil =>
    cases read
    cases mem
  | cons x xs ih =>
    rw [List.mapM_cons] at read
    obtain ⟨first, one, read⟩ := Option.bind_eq_some_iff.mp read
    obtain ⟨rest, others, read⟩ := Option.bind_eq_some_iff.mp read
    cases read
    rcases List.mem_cons.mp mem with rfl | mem
    · exact ⟨x, one⟩
    · exact ih others mem

/-- The ASCII form of a name has no forbidden character. -/
theorem allowed_asciiName? {name domain : List Char} (read : asciiName? name = some domain) :
    Allowed domain := by
  unfold asciiName? at read
  obtain ⟨_, -, read⟩ := Option.bind_eq_some_iff.mp read
  obtain ⟨labels, each, read⟩ := Option.bind_eq_some_iff.mp read
  split at read
  case isFalse => cases read
  case isTrue =>
    cases read
    intro c mem
    rcases Text.mem_intercalate mem with mem | ⟨ascii, there, mem⟩
    · cases List.mem_singleton.mp mem
      decide
    · obtain ⟨label, mapped, rfl⟩ := List.mem_map.mp there
      obtain ⟨piece, read⟩ := exists_of_mem_mapM each mapped
      exact allowed_ofMapped? read c mem

end EntityQuery.Domain
