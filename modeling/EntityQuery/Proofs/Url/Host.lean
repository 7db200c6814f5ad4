import EntityQuery.Proofs.Domain.Name
import EntityQuery.Proofs.Except
import EntityQuery.Proofs.Url.Form
import EntityQuery.Url.Host

/-!
# Hosts hold no marks

A query starts with a question mark and a fragment with a number sign.  A part
of a URL that holds neither can be told from what stands behind it.  Every host
is such a part: the characters of an address are digits and separators, and
those of a name are not forbidden.

## Main Definitions

* `Url.marks`: the two marks.
* `Url.Unmarked`: neither of them stands in a text.

## Main Statements

* `Url.not_mem_percentEncode`: an encoded mark is gone.
* `Url.unmarked_parseHost`, `Url.unmarked_parseOpaqueHost`: hosts hold no marks.
-/

namespace EntityQuery.Url

open Text

/-- The marks that start the query and the fragment of a URL. -/
def marks : List Char := ['?', '#']

/-- Neither mark stands in a text. -/
def Unmarked (s : List Char) : Prop :=
  ∀ c ∈ s, c ∉ marks

instance (s : List Char) : Decidable (Unmarked s) :=
  List.decidableBAll (· ∉ marks) s

/-- What holds of both marks. -/
theorem forall_marks {p : Char → Prop} (question : p '?') (number : p '#') :
    ∀ mark ∈ marks, p mark :=
  List.forall_mem_cons.mpr ⟨question, List.forall_mem_singleton.mpr number⟩

namespace Unmarked

variable {s t : List Char}

theorem nil : Unmarked [] := nofun

theorem append (first : Unmarked s) (second : Unmarked t) : Unmarked (s ++ t) :=
  List.forall_mem_append.mpr ⟨first, second⟩

theorem ite {p : Prop} [Decidable p] {a b : String} (first : Unmarked a.toList)
    (second : Unmarked b.toList) : Unmarked (if p then a else b).toList := by
  split
  · exact first
  · exact second

theorem intercalate {separator : List Char} {texts : List (List Char)}
    (between : Unmarked separator) (each : ∀ text ∈ texts, Unmarked text) :
    Unmarked (separator.intercalate texts) := by
  intro c mem
  rcases mem_intercalate mem with mem | ⟨text, there, mem⟩
  · exact between c mem
  · exact each text there c mem

end Unmarked

/-! ## Encoded characters -/

section Encode

variable {isEncoded : Char → Bool} {s : List Char}

theorem unmarked_percentByte : ∀ b : UInt8, Unmarked (percentByte b) :=
  forall_byte (by decide +kernel)

/-- A mark is gone from a text in which it is encoded. -/
theorem not_mem_percentEncode {mark : Char} (isMark : mark ∈ marks)
    (covered : mark ∈ s → isEncoded mark) : mark ∉ percentEncode isEncoded s := by
  intro mem
  obtain ⟨c, there, mem⟩ := List.mem_flatMap.mp mem
  unfold percentEncodeChar at mem
  split at mem
  case isTrue =>
    obtain ⟨b, -, mem⟩ := List.mem_flatMap.mp mem
    exact unmarked_percentByte b mark mem isMark
  case isFalse plain =>
    cases List.mem_singleton.mp mem
    simp only [covered there, Bool.or_true, not_true_eq_false] at plain

theorem unmarked_percentEncode (covered : ∀ mark ∈ marks, mark ∈ s → isEncoded mark) :
    Unmarked (percentEncode isEncoded s) := fun mark mem isMark =>
  not_mem_percentEncode isMark (covered mark isMark) mem

end Encode

/-! ## Addresses -/

theorem unmarked_toString (n : Nat) : Unmarked (toString n).toList := by
  have noDigit : ∀ mark ∈ marks, ¬mark.isDigit := forall_marks nofun nofun
  exact fun c mem mark => noDigit c mark (isDigit_of_mem_toString mem)

theorem unmarked_ipv4 (address : Nat) : Unmarked (Ipv4.text address).toList := by
  rw [Ipv4.text, String.toList_intercalate, List.map_map]
  refine .intercalate (by decide) fun text mem => ?_
  obtain ⟨i, -, rfl⟩ := List.mem_map.mp mem
  exact unmarked_toString _

theorem exists_digitChar_of_mem_toDigits {b n : Nat} {c : Char} (base : 1 < b)
    (mem : c ∈ Nat.toDigits b n) : ∃ d, Nat.digitChar d = c := by
  induction n using Nat.strongRecOn with
  | ind n ih =>
    rw [Nat.toDigits_eq_if base] at mem
    split at mem
    · exact ⟨n, (List.mem_singleton.mp mem).symm⟩
    · rcases List.mem_append.mp mem with mem | mem
      · exact ih (n / b) (Nat.div_lt_self (by omega) base) mem
      · exact ⟨n % b, (List.mem_singleton.mp mem).symm⟩

theorem unmarked_toDigits (n : Nat) : Unmarked (Nat.toDigits 16 n) := by
  intro c mem mark
  obtain ⟨d, rfl⟩ := exists_digitChar_of_mem_toDigits (by decide) mem
  simp only [marks, List.mem_cons, List.not_mem_nil, or_false] at mark
  rcases mark with mark | mark
  · exact Nat.digitChar_ne '?' rfl mark
  · exact Nat.digitChar_ne '#' rfl mark

theorem unmarked_ipv6 (groups : List Nat) : Unmarked (Ipv6.text groups).toList := by
  have joined (groups : List Nat) :
      Unmarked (":".intercalate (groups.map fun n => String.ofList (Nat.toDigits 16 n))).toList := by
    rw [String.toList_intercalate, List.map_map]
    refine .intercalate (by decide) fun text mem => ?_
    obtain ⟨n, -, rfl⟩ := List.mem_map.mp mem
    rw [Function.comp_apply, String.toList_ofList]
    exact unmarked_toDigits n
  unfold Ipv6.text
  simp only [String.toList_append]
  refine .append (.append (by decide) ?_) (by decide)
  split
  · exact joined groups
  · simp only [String.toList_append]
    exact .append (.append (joined _) (by decide)) (joined _)

/-! ## Hosts -/

section Host

variable {s : List Char} {host : String}

theorem unmarked_parseBracketed (read : parseBracketed s = .ok host) : Unmarked host.toList := by
  unfold parseBracketed at read
  split at read
  · obtain ⟨groups, -, rfl⟩ := Except.map_eq_ok_iff.mp read
    exact unmarked_ipv6 groups
  · cases read

/-- A name holds no mark because its ASCII form holds no forbidden character. -/
theorem unmarked_parseHost (read : parseHost s = .ok host) : Unmarked host.toList := by
  unfold parseHost at read
  split at read
  · exact unmarked_parseBracketed read
  split at read
  · cases read
  rename_i domain named
  obtain ⟨name, -, named⟩ := Option.bind_eq_some_iff.mp named
  split at read
  · cases read
  split at read
  · obtain ⟨address, -, rfl⟩ := Except.map_eq_ok_iff.mp read
    exact unmarked_ipv4 address
  · cases read
    rw [String.toList_ofList]
    have forbidden : ∀ mark ∈ marks, Domain.isForbidden mark = true := forall_marks rfl rfl
    exact fun c mem mark =>
      absurd ((forbidden c mark).symm.trans (Domain.allowed_asciiName? named c mem)) nofun

theorem unmarked_parseOpaqueHost (read : parseOpaqueHost s = .ok host) :
    Unmarked host.toList := by
  unfold parseOpaqueHost at read
  split at read
  · exact unmarked_parseBracketed read
  split at read
  · cases read
  rename_i lacks
  cases read
  rw [String.toList_ofList]
  refine unmarked_percentEncode fun mark isMark mem => absurd ?_ lacks
  have forbidden : ∀ mark ∈ marks, isForbiddenInHost mark := forall_marks rfl rfl
  exact List.any_eq_true.mpr ⟨mark, mem, forbidden mark isMark⟩

end Host

end EntityQuery.Url
