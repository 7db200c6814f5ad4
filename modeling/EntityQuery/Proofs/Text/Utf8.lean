import EntityQuery.Text.Utf8

/-!
# UTF-8 is read back

Every character is written as a first byte and the continuation bytes that it
announces.  The reader takes exactly these bytes for the character, whatever
follows them, so a text read from its own bytes is that text with no
replacement in it.

## Main Statements

* `Text.step_encodeChar`: one character is read back.
* `Text.decodeLossy_encode`: a text is read back.
-/

namespace EntityQuery.Text

/-! ## First bytes

The range announced for the second byte is narrower at both ends of the code
points and around the surrogates; a valid code point falls within it. -/

section Lead

variable {n : Nat}

theorem lead?_one (greatest : n ≤ 0x7F) : lead? (UInt8.ofNat n) = some ⟨n, 0, 0x80, 0xBF⟩ := by
  have value : (UInt8.ofNat n).toNat = n :=
    UInt8.toNat_ofNat_of_lt' (by simp only [UInt8.size]; omega)
  simp only [lead?, value]
  rw [if_pos (by omega)]

theorem lead?_two (least : 0x80 ≤ n) (greatest : n ≤ 0x7FF) :
    lead? (UInt8.ofNat (n / 64 % 32 + 0xC0)) = some ⟨n / 64, 1, 0x80, 0xBF⟩ := by
  have value : (UInt8.ofNat (n / 64 % 32 + 0xC0)).toNat = n / 64 + 0xC0 := by
    rw [UInt8.toNat_ofNat_of_lt' (by simp only [UInt8.size]; omega)]
    omega
  simp only [lead?, value]
  rw [if_neg (by omega), if_neg (by omega), if_pos (by omega), Nat.add_sub_cancel]

theorem lead?_three (least : 0x800 ≤ n) (greatest : n ≤ 0xFFFF) (valid : n.isValidChar) :
    ∃ low high, lead? (UInt8.ofNat (n / 4096 % 16 + 0xE0)) = some ⟨n / 4096, 2, low, high⟩ ∧
      low ≤ n / 64 % 64 + 0x80 ∧ n / 64 % 64 + 0x80 ≤ high := by
  simp only [Nat.isValidChar] at valid
  have value : (UInt8.ofNat (n / 4096 % 16 + 0xE0)).toNat = n / 4096 + 0xE0 := by
    rw [UInt8.toNat_ofNat_of_lt' (by simp only [UInt8.size]; omega)]
    omega
  simp only [lead?, value]
  rw [if_neg (by omega), if_neg (by omega), if_neg (by omega)]
  rcases Nat.lt_trichotomy (n / 4096) 0xD with before | surrogates | after
  · rcases Nat.eq_zero_or_pos (n / 4096) with zero | _
    · exact ⟨0xA0, 0xBF, by simp [zero], by omega, by omega⟩
    · refine ⟨0x80, 0xBF, ?_, by omega, by omega⟩
      rw [if_neg (by omega), if_neg (by omega), if_pos (by omega), Nat.add_sub_cancel]
  · exact ⟨0x80, 0x9F, by simp [surrogates], by omega, by omega⟩
  · refine ⟨0x80, 0xBF, ?_, by omega, by omega⟩
    rw [if_neg (by omega), if_neg (by omega), if_pos (by omega), Nat.add_sub_cancel]

theorem lead?_four (least : 0x10000 ≤ n) (valid : n.isValidChar) :
    ∃ low high, lead? (UInt8.ofNat (n / 262144 % 8 + 0xF0)) = some ⟨n / 262144, 3, low, high⟩ ∧
      low ≤ n / 4096 % 64 + 0x80 ∧ n / 4096 % 64 + 0x80 ≤ high := by
  simp only [Nat.isValidChar] at valid
  have value : (UInt8.ofNat (n / 262144 % 8 + 0xF0)).toNat = n / 262144 + 0xF0 := by
    rw [UInt8.toNat_ofNat_of_lt' (by simp only [UInt8.size]; omega)]
    omega
  simp only [lead?, value]
  rw [if_neg (by omega), if_neg (by omega), if_neg (by omega), if_neg (by omega), if_neg (by omega),
    if_neg (by omega)]
  rcases Nat.eq_zero_or_pos (n / 262144) with zero | _
  · exact ⟨0x90, 0xBF, by simp [zero], by omega, by omega⟩
  rcases Nat.lt_or_ge (n / 262144) 4 with _ | _
  · refine ⟨0x80, 0xBF, ?_, by omega, by omega⟩
    rw [if_neg (by omega), if_pos (by omega), Nat.add_sub_cancel]
  · have last : n / 262144 = 4 := by omega
    exact ⟨0x80, 0x8F, by simp [last], by omega, by omega⟩

end Lead

/-! ## Continuation bytes -/

theorem continueFrom_cons {n low high : Nat} (bits count : Nat) (rest : List UInt8)
    (least : low ≤ n % 64 + 0x80) (greatest : n % 64 + 0x80 ≤ high) :
    continueFrom bits (count + 1) low high (UInt8.ofNat (n % 64 + 0x80) :: rest) =
      continueFrom (bits * 64 + n % 64) count 0x80 0xBF rest := by
  have value : (UInt8.ofNat (n % 64 + 0x80)).toNat = n % 64 + 0x80 :=
    UInt8.toNat_ofNat_of_lt' (by simp only [UInt8.size]; omega)
  simp only [continueFrom, value, least, greatest, decide_true, Bool.and_self, if_true,
    Nat.add_sub_cancel]

/-- Any six bits fit into a byte behind the second. -/
theorem continueFrom_cons_full (bits count n : Nat) (rest : List UInt8) :
    continueFrom bits (count + 1) 0x80 0xBF (UInt8.ofNat (n % 64 + 0x80) :: rest) =
      continueFrom (bits * 64 + n % 64) count 0x80 0xBF rest :=
  continueFrom_cons bits count rest (by omega) (by omega)

/-! ## Texts -/

theorem step_eq_some {b : UInt8} {bytes rest : List UInt8} {l : Lead} {n : Nat}
    (starts : lead? b = some l)
    (goesOn : continueFrom l.bits l.continuations l.low l.high bytes = ((n, true), rest)) :
    step b bytes = (some (Char.ofNat n), rest) := by
  rw [step, starts]
  simp only [goesOn]

/-- The bytes of a character are one sequence, whatever stands behind them. -/
theorem step_encodeChar (c : Char) (rest : List UInt8) :
    ∃ b bytes, String.utf8EncodeChar c = b :: bytes ∧ step b (bytes ++ rest) = (some c, rest) := by
  have valid : c.val.toNat.isValidChar := c.valid
  have reads : some (Char.ofNat c.val.toNat) = some c := congrArg some (Char.ofNat_toNat c)
  unfold String.utf8EncodeChar
  generalize c.val.toNat = n at valid reads
  simp only [← reads]
  -- One case for each length; in base 64 the digits read so far grow by one with every byte.
  split
  · exact ⟨_, _, rfl, step_eq_some (lead?_one ‹_›) rfl⟩
  split
  · refine ⟨_, _, rfl, step_eq_some (lead?_two (by omega) ‹_›) ?_⟩
    rw [List.cons_append, continueFrom_cons_full, Nat.div_add_mod']
    rfl
  split
  · obtain ⟨low, high, starts, least, greatest⟩ := lead?_three (n := n) (by omega) ‹_› valid
    refine ⟨_, _, rfl, step_eq_some starts ?_⟩
    have digits : n / 4096 * 64 + n / 64 % 64 = n / 64 := by omega
    rw [List.cons_append, continueFrom_cons _ _ _ least greatest, digits, List.cons_append,
      continueFrom_cons_full, Nat.div_add_mod']
    rfl
  · obtain ⟨low, high, starts, least, greatest⟩ := lead?_four (n := n) (by omega) valid
    refine ⟨_, _, rfl, step_eq_some starts ?_⟩
    have digits : n / 262144 * 64 + n / 4096 % 64 = n / 4096 := by omega
    have more : n / 4096 * 64 + n / 64 % 64 = n / 64 := by omega
    rw [List.cons_append, continueFrom_cons _ _ _ least greatest, digits, List.cons_append,
      continueFrom_cons_full, more, List.cons_append, continueFrom_cons_full, Nat.div_add_mod']
    rfl

theorem decodeSteps_encode (s : List Char) : decodeSteps (encode s) = s.map some := by
  induction s with
  | nil => rw [encode, List.flatMap_nil, decodeSteps, List.map_nil]
  | cons c s ih =>
    obtain ⟨b, bytes, written, read⟩ := step_encodeChar c (encode s)
    rw [encode, List.flatMap_cons, ← encode, written, List.cons_append, decodeSteps, read, ih,
      List.map_cons]

/-- A text is read back from its bytes. -/
theorem decodeLossy_encode (s : List Char) : decodeLossy (encode s) = s := by
  simp [decodeLossy, decodeSteps_encode, Function.comp_def]

end EntityQuery.Text
