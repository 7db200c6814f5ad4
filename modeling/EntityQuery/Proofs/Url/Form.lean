import EntityQuery.Proofs.Text
import EntityQuery.Proofs.Text.Utf8
import EntityQuery.Url.Basic

/-!
# Form encoding is undone by decoding

A byte of a name or value is written so that it is read back alone, whatever
stands behind it; so every text is read back, and a pair added to a query is
read behind the pairs that were there.

## Main Statements

* `Url.decodeComponent_encodeComponent`: a name or value is read back.
* `Url.not_mem_encodeComponent`: no separator of a form stands in one.
* `Url.decodePairs_encodePair`: a pair is read back.
* `Url.queryPairs_appendPair`: the pairs of a query with one more.

## Implementation Notes

The reader turns plus signs into blanks before it looks at percent signs.  A
written plus sign stands behind a percent sign, so it is not touched.
-/

namespace EntityQuery.Url

open Text

/-! ## Bytes -/

/-- What holds of the bytes below 256 holds of all. -/
theorem forall_byte {P : UInt8 → Prop} (below : ∀ n < 256, P (UInt8.ofNat n)) (b : UInt8) : P b :=
  UInt8.ofNat_toNat (x := b) ▸ below b.toNat b.toNat_lt

theorem hexValue?_upperHexDigit : ∀ n < 16, hexValue? (upperHexDigit n) = some n := by decide

theorem percentDecode_percentByte (b : UInt8) (rest : List Char) :
    percentDecode (percentByte b ++ rest) = b :: percentDecode rest := by
  have below : b.toNat < 256 := b.toNat_lt
  rw [percentByte, List.cons_append, List.cons_append, List.cons_append, List.nil_append,
    percentDecode, hexValue?_upperHexDigit _ (by omega), hexValue?_upperHexDigit _ (by omega)]
  simp only [Nat.div_add_mod', UInt8.ofNat_toNat]

theorem percentDecode_cons {c : Char} (plain : c ≠ '%') (rest : List Char) :
    percentDecode (c :: rest) = String.utf8EncodeChar c ++ percentDecode rest := by
  rw [percentDecode]
  rintro a b rest rfl
  exact absurd rfl plain

/-- A byte that stands for itself is the one byte of its character. -/
theorem utf8EncodeChar_of_isFormSafe : ∀ b : UInt8, isFormSafe b →
    Char.ofNat b.toNat ∉ ['%', '+'] ∧ String.utf8EncodeChar (Char.ofNat b.toNat) = [b] :=
  forall_byte (by decide +kernel)

theorem plus_not_mem_percentByte : ∀ b : UInt8, '+' ∉ percentByte b :=
  forall_byte (by decide +kernel)

/-- The blank that a plus sign stands for. -/
def blankOfPlus (c : Char) : Char :=
  if c = '+' then ' ' else c

/-- A byte is read back, whatever stands behind it. -/
theorem percentDecode_encodeFormByte (b : UInt8) (rest : List Char) :
    percentDecode ((encodeFormByte b).map blankOfPlus ++ rest) = b :: percentDecode rest := by
  unfold encodeFormByte
  split
  case isTrue safe =>
    obtain ⟨plain, single⟩ := utf8EncodeChar_of_isFormSafe b safe
    simp only [List.mem_cons, List.not_mem_nil, or_false, not_or] at plain
    rw [List.map_singleton, blankOfPlus, if_neg plain.2, List.singleton_append,
      percentDecode_cons plain.1, single, List.singleton_append]
  case isFalse =>
    split
    case isTrue blank =>
      rw [blank, List.map_singleton, blankOfPlus, if_pos rfl, List.singleton_append,
        percentDecode_cons (by decide)]
      rfl
    case isFalse =>
      have same : (percentByte b).map blankOfPlus = percentByte b :=
        List.map_id' (percentByte b) ▸ List.map_congr_left fun c mem =>
          if_neg fun plus : c = '+' => plus_not_mem_percentByte b (plus ▸ mem)
      rw [same, percentDecode_percentByte]

theorem percentDecode_flatMap (bytes : List UInt8) :
    percentDecode ((bytes.flatMap encodeFormByte).map blankOfPlus) = bytes := by
  induction bytes with
  | nil => rfl
  | cons b bytes ih => rw [List.flatMap_cons, List.map_append, percentDecode_encodeFormByte, ih]

/-! ## Names and values -/

/-- A name or value is read back. -/
theorem decodeComponent_encodeComponent (s : List Char) :
    decodeComponent (encodeComponent s) = s :=
  (congrArg decodeLossy (percentDecode_flatMap (encode s))).trans (decodeLossy_encode s)

theorem not_mem_encodeFormByte : ∀ b : UInt8, '&' ∉ encodeFormByte b ∧ '=' ∉ encodeFormByte b ∧
    '#' ∉ encodeFormByte b ∧ '?' ∉ encodeFormByte b :=
  forall_byte (by decide +kernel)

/-- No separator stands in a name or value: neither one of the form nor one of the URL around it. -/
theorem not_mem_encodeComponent {c : Char} (separator : c ∈ ['&', '=', '#', '?']) (s : List Char) :
    c ∉ encodeComponent s := by
  intro mem
  obtain ⟨b, -, mem⟩ := List.mem_flatMap.mp mem
  obtain ⟨ampersand, equals, number, question⟩ := not_mem_encodeFormByte b
  simp only [List.mem_cons, List.not_mem_nil, or_false] at separator
  rcases separator with rfl | rfl | rfl | rfl
  · exact ampersand mem
  · exact equals mem
  · exact number mem
  · exact question mem

/-! ## Pairs -/

theorem not_mem_encodePair {c : Char} (separator : c ∈ ['&', '#', '?']) (name value : List Char) :
    c ∉ encodePair name value := by
  have other : c ≠ '=' := by
    rintro rfl
    exact absurd separator (by decide)
  have separator : c ∈ ['&', '=', '#', '?'] :=
    (by decide : ['&', '#', '?'] ⊆ ['&', '=', '#', '?']) separator
  simp [encodePair, other, not_mem_encodeComponent separator]

theorem decodePair_encodePair (name value : List Char) :
    decodePair (encodePair name value) = (name, value) := by
  rw [decodePair, encodePair, cutFirst_append_cons (not_mem_encodeComponent (by decide) name)]
  simp only [decodeComponent_encodeComponent]

theorem decodePairs_encodePair (name value : List Char) :
    decodePairs (encodePair name value) = [(name, value)] := by
  have flat : ∀ c ∈ encodePair name value, (c == '&') = false := fun c mem =>
    beq_eq_false_iff_ne.mpr fun ampersand =>
      not_mem_encodePair (by decide) name value (ampersand ▸ mem)
  have kept : [encodePair name value].filter (· ≠ []) = [encodePair name value] := by
    simp [encodePair]
  rw [decodePairs, splitOn_eq_singleton flat, kept, List.map_singleton, decodePair_encodePair]

theorem decodePairs_append_cons (form more : List Char) :
    decodePairs (form ++ '&' :: more) = decodePairs form ++ decodePairs more := by
  rw [decodePairs, splitOn_append_cons (by rfl), List.filter_append, List.map_append]
  rfl

/-- A query that is there keeps its text, and an empty one stands for no pair. -/
theorem decodePairs_addPair (name value : String) (query : Option String) :
    decodePairs (addPair name value query).toList =
      decodePairs (query.getD "").toList ++ [(name.toList, value.toList)] := by
  have single : decodePairs (String.ofList (encodePair name.toList value.toList)).toList =
      [(name.toList, value.toList)] := by
    rw [String.toList_ofList, decodePairs_encodePair]
  unfold addPair
  cases query with
  | none => exact single
  | some q =>
    simp only [Option.getD_some]
    split
    case isTrue empty =>
      rw [String.isEmpty_iff.mp empty, single]
      rfl
    case isFalse =>
      rw [String.toList_append, String.toList_append, List.append_assoc]
      exact (decodePairs_append_cons _ _).trans (congrArg _ single)

/-- An added pair is read behind the pairs that were there, whatever its name and value are. -/
theorem queryPairs_appendPair (name value : String) (u : Url) :
    (u.appendPair name value).queryPairs = u.queryPairs ++ [(name.toList, value.toList)] :=
  decodePairs_addPair name value u.query

end EntityQuery.Url
