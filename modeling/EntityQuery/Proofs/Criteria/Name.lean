import Mathlib.Data.String.Basic
import EntityQuery.Criteria.Name

/-!
# Reading wire names

A wire name stands for a field and a kind exactly when these are canonical and
their wire name is the one that was read.  So reading inverts writing on the
canonical names and on no others.

## Main Statements

* `CriterionName.ofWireName_eq_ok_iff`: what a wire name stands for.
* `CriterionName.IsCanonical.eq_of_wireName_eq`: canonical names with one wire
  name are equal.
* `CriterionName.exists_ofWireName_eq_ok_iff`: which wire names stand for nothing.
* `CriterionName.kind_eq_iff_isSuffix`: the kind is told by the end of a wire name.
* `CriterionName.ofWireName_inverts`: what reading and writing are to each other,
  and which names are written alike.
-/

namespace EntityQuery

namespace PredicateKind

theorem mem_marked_iff {kind : PredicateKind} : kind ∈ marked ↔ kind ≠ .equals := by
  cases kind <;> decide

/-- No suffix ends in another one. -/
theorem eq_of_suffix_isSuffix :
    ∀ a ∈ marked, ∀ b ∈ marked, a.suffix.toList <:+ b.suffix.toList → a = b := by
  decide

/-- A text ends in one suffix at most. -/
theorem eq_of_isSuffix {a b : PredicateKind} (ha : a ∈ marked) (hb : b ∈ marked) {s : List Char}
    (endA : a.suffix.toList <:+ s) (endB : b.suffix.toList <:+ s) : a = b := by
  rcases List.suffix_or_suffix_of_suffix endA endB with inside | inside
  · exact eq_of_suffix_isSuffix a ha b hb inside
  · exact (eq_of_suffix_isSuffix b hb a ha inside).symm

end PredicateKind

namespace CriterionName

open PredicateKind (marked)

instance (name : CriterionName) : Decidable name.IsCanonical :=
  inferInstanceAs (Decidable (_ ∧ _))

@[simp] theorem wireName_equals (field : String) : wireName ⟨field, .equals⟩ = field := by
  simp [wireName, PredicateKind.suffix]

theorem toList_wireName (name : CriterionName) :
    name.wireName.toList = name.field.toList ++ name.kind.suffix.toList := by
  simp [wireName]

/-- Names of one kind are told apart by their wire names. -/
theorem eq_of_kind_eq {a b : CriterionName} (kinds : a.kind = b.kind)
    (wires : a.wireName = b.wireName) : a = b := by
  have chars := congrArg String.toList wires
  rw [toList_wireName, toList_wireName, kinds, List.append_cancel_right_eq] at chars
  obtain ⟨field, kind⟩ := a
  exact congrArg₂ CriterionName.mk (String.toList_injective chars) kinds

/-- A field ends in a suffix exactly when it is the wire name of a marked kind. -/
theorem endsInSuffix_eq_true_iff {raw : String} :
    endsInSuffix raw = true ↔ ∃ name : CriterionName, name.kind ∈ marked ∧ raw = name.wireName := by
  rw [endsInSuffix, List.any_eq_true]
  constructor
  · rintro ⟨kind, mem, ending⟩
    obtain ⟨start, split⟩ := List.isSuffixOf_iff_suffix.mp ending
    refine ⟨⟨String.ofList start, kind⟩, mem, String.toList_injective ?_⟩
    rw [toList_wireName, String.toList_ofList, split]
  · rintro ⟨name, mem, rfl⟩
    refine ⟨name.kind, mem, List.isSuffixOf_iff_suffix.mpr ?_⟩
    exact ⟨name.field.toList, (toList_wireName name).symm⟩

/-- Splitting answers the only name of a marked kind with the given wire name. -/
theorem split?_eq_some_iff {raw : String} {name : CriterionName} :
    split? marked raw = some name ↔ name.kind ∈ marked ∧ raw = name.wireName := by
  have sound : ∀ {name : CriterionName}, split? marked raw = some name →
      name.kind ∈ marked ∧ raw = name.wireName := by
    intro name found
    obtain ⟨kind, mem, found⟩ := List.exists_of_findSome?_eq_some found
    obtain ⟨start, cut, rfl⟩ := Option.map_eq_some_iff.mp found
    refine ⟨mem, String.toList_injective ?_⟩
    rw [toList_wireName, String.toList_ofList, Text.dropEnding_eq_some_iff.mp cut]
  refine ⟨sound, ?_⟩
  rintro ⟨mem, rfl⟩
  have cut : Text.dropEnding name.kind.suffix.toList name.wireName.toList =
      some name.field.toList :=
    Text.dropEnding_eq_some_iff.mpr (toList_wireName name)
  have hit : (split? marked name.wireName).isSome := by
    rw [split?, List.findSome?_isSome_iff]
    exact ⟨name.kind, mem, by rw [cut]; rfl⟩
  obtain ⟨other, found⟩ := Option.isSome_iff_exists.mp hit
  obtain ⟨mem', same⟩ := sound found
  -- Only the kind is to be compared: with it the field is determined.
  have kinds : name.kind = other.kind :=
    PredicateKind.eq_of_isSuffix mem mem' ⟨name.field.toList, (toList_wireName name).symm⟩
      ⟨other.field.toList, by rw [same, toList_wireName]⟩
  rw [found, eq_of_kind_eq kinds same]

theorem split?_eq_none_iff {raw : String} :
    split? marked raw = none ↔ endsInSuffix raw = false := by
  rw [← Bool.not_eq_true, endsInSuffix_eq_true_iff, Option.eq_none_iff_forall_ne_some]
  simp [split?_eq_some_iff]

/-- A wire name reads as the field and kind that are written so, where equality is read last. -/
theorem getD_split?_eq_iff {raw : String} {name : CriterionName} :
    (split? marked raw).getD ⟨raw, .equals⟩ = name ↔
      raw = name.wireName ∧ (name.kind = .equals → endsInSuffix name.field = false) := by
  obtain ⟨field, kind⟩ := name
  by_cases equality : kind = .equals
  · subst equality
    rw [wireName_equals]
    cases found : split? marked raw with
    | none =>
      have plain := split?_eq_none_iff.mp found
      simp only [Option.getD_none, CriterionName.mk.injEq, and_true, true_implies]
      exact ⟨fun same => ⟨same, same ▸ plain⟩, And.left⟩
    | some other =>
      have mem := (split?_eq_some_iff.mp found).1
      constructor
      · rintro rfl
        exact absurd rfl (PredicateKind.mem_marked_iff.mp mem)
      · rintro ⟨rfl, plain⟩
        rw [split?_eq_none_iff.mpr (plain rfl)] at found
        cases found
  · have mem := PredicateKind.mem_marked_iff.mpr equality
    have split_iff : split? marked raw = some ⟨field, kind⟩ ↔ raw = wireName ⟨field, kind⟩ :=
      split?_eq_some_iff.trans (and_iff_right mem)
    simp only [equality, false_implies, and_true, ← split_iff]
    cases split? marked raw with
    | none => simp [Ne.symm equality]
    | some other => simp

/-- A wire name stands for the one canonical name that is written so. -/
theorem ofWireName_eq_ok_iff {raw : String} {name : CriterionName} :
    ofWireName raw = .ok name ↔ raw = name.wireName ∧ name.IsCanonical := by
  have read : (split? marked raw).getD ⟨raw, .equals⟩ = name ↔
      raw = name.wireName ∧ (name.kind = .equals → endsInSuffix name.field = false) :=
    getD_split?_eq_iff
  simp only [ofWireName, IsCanonical]
  split
  · rename_i empty
    simp only [reduceCtorEq, false_iff]
    rintro ⟨written, field, plain⟩
    rw [read.mpr ⟨written, plain⟩] at empty
    exact field (String.isEmpty_iff.mp empty)
  · rename_i nonempty
    rw [Except.ok.injEq, read]
    constructor
    · rintro ⟨written, plain⟩
      rw [read.mpr ⟨written, plain⟩] at nonempty
      exact ⟨written, fun empty => nonempty (String.isEmpty_iff.mpr empty), plain⟩
    · rintro ⟨written, -, plain⟩
      exact ⟨written, plain⟩

theorem ofWireName_wireName {name : CriterionName} (canonical : name.IsCanonical) :
    ofWireName name.wireName = .ok name :=
  ofWireName_eq_ok_iff.mpr ⟨rfl, canonical⟩

/-- A wire name stands for something unless it is a suffix and nothing else. -/
theorem exists_ofWireName_eq_ok_iff {raw : String} :
    (∃ name, ofWireName raw = .ok name) ↔ raw ∉ ["", "_like", "_between", "_inSubquery"] := by
  constructor
  · have refused : ∀ raw ∈ ["", "_like", "_between", "_inSubquery"], ∀ name,
        ofWireName raw ≠ .ok name := by
      simp only [List.forall_mem_cons]
      exact ⟨nofun, nofun, nofun, nofun, nofun⟩
    rintro ⟨name, read⟩ mem
    exact refused raw mem name read
  · intro notSuffix
    obtain ⟨name, split⟩ : ∃ name, (split? marked raw).getD ⟨raw, .equals⟩ = name := ⟨_, rfl⟩
    obtain ⟨written, plain⟩ := getD_split?_eq_iff.mp split
    refine ⟨name, ofWireName_eq_ok_iff.mpr ⟨written, fun empty => notSuffix ?_, plain⟩⟩
    have alone : raw = name.kind.suffix := by
      rw [written, wireName, empty]
      exact String.empty_append
    rw [alone]
    cases name.kind <;> decide

theorem ofWireName_eq_error_iff {raw : String} {e : CriteriaError} :
    ofWireName raw = .error e ↔
      e = .invalidName raw ∧ raw ∈ ["", "_like", "_between", "_inSubquery"] := by
  have fault {e : CriteriaError} (refused : ofWireName raw = .error e) : e = .invalidName raw := by
    rw [ofWireName] at refused
    split at refused <;> cases refused
    rfl
  constructor
  · intro refused
    refine ⟨fault refused, not_not.mp fun other => ?_⟩
    obtain ⟨name, read⟩ := exists_ofWireName_eq_ok_iff.mpr other
    rw [read] at refused
    cases refused
  · rintro ⟨rfl, mem⟩
    cases result : ofWireName raw with
    | error e => rw [fault result]
    | ok name => exact absurd mem (exists_ofWireName_eq_ok_iff.mp ⟨name, result⟩)

/-- The kind that a wire name stands for is told by its end. -/
theorem kind_eq_iff_isSuffix {raw : String} {name : CriterionName}
    (read : ofWireName raw = .ok name) {kind : PredicateKind} (mem : kind ∈ marked) :
    name.kind = kind ↔ kind.suffix.toList <:+ raw.toList := by
  obtain ⟨rfl, -, plain⟩ := ofWireName_eq_ok_iff.mp read
  have own : name.kind.suffix.toList <:+ name.wireName.toList :=
    ⟨name.field.toList, (toList_wireName name).symm⟩
  constructor
  · rintro rfl
    exact own
  · intro ending
    by_cases equality : name.kind = .equals
    · have plain' := plain equality
      rw [show name = ⟨name.field, .equals⟩ from equality ▸ rfl, wireName_equals] at ending
      have hit : endsInSuffix name.field = true :=
        List.any_eq_true.mpr ⟨kind, mem, List.isSuffixOf_iff_suffix.mpr ending⟩
      rw [plain'] at hit
      cases hit
    · exact PredicateKind.eq_of_isSuffix (PredicateKind.mem_marked_iff.mpr equality) mem own ending

/-- On canonical names nothing is lost by writing. -/
theorem IsCanonical.eq_of_wireName_eq {a b : CriterionName} (ha : a.IsCanonical)
    (hb : b.IsCanonical) (wires : a.wireName = b.wireName) : a = b := by
  have read := ofWireName_wireName ha
  rw [wires, ofWireName_wireName hb] at read
  exact (Except.ok.inj read).symm

/-- Of two names that are written alike, one is an equality whose field ends in a suffix. -/
theorem exists_endsInSuffix_of_wireName_eq {a b : CriterionName} (differ : a ≠ b)
    (wires : a.wireName = b.wireName) :
    ∃ name ∈ [a, b], name.kind = .equals ∧ endsInSuffix name.field = true := by
  have kinds : a.kind ≠ b.kind := fun same => differ (eq_of_kind_eq same wires)
  -- The field of an equality is its wire name, which is the marked one of the other.
  have marked_of {a b : CriterionName} (equality : a.kind = .equals) (other : b.kind ≠ .equals)
      (wires : a.wireName = b.wireName) : endsInSuffix a.field = true := by
    obtain ⟨field, kind⟩ := a
    cases equality
    rw [wireName_equals] at wires
    exact endsInSuffix_eq_true_iff.mpr ⟨b, PredicateKind.mem_marked_iff.mpr other, wires⟩
  by_cases left : a.kind = .equals
  · exact ⟨a, List.mem_cons_self, left, marked_of left (left ▸ kinds.symm) wires⟩
  · by_cases right : b.kind = .equals
    · exact ⟨b, by simp, right, marked_of right left wires.symm⟩
    · refine absurd (PredicateKind.eq_of_isSuffix (PredicateKind.mem_marked_iff.mpr left)
        (PredicateKind.mem_marked_iff.mpr right) (s := a.wireName.toList) ?_ ?_) kinds
      · exact ⟨a.field.toList, (toList_wireName a).symm⟩
      · exact ⟨b.field.toList, by rw [wires, toList_wireName]⟩

theorem endsInSuffix_eq_true_iff_exists {field : String} :
    endsInSuffix field = true ↔
      ∃ suffix ∈ ["_like", "_between", "_inSubquery"], suffix.toList <:+ field.toList := by
  simp [endsInSuffix, marked, PredicateKind.suffix]

/-- Reading and writing invert each other where that is possible.  A wire name is refused exactly if
it is empty or a suffix and nothing else, and what any other one stands for is written as it was
read.  A name is read back exactly if it has a field that, for an equality, does not end in a
suffix.  So no two names that are read are written alike, and two names are written alike only if
one of them is an equality whose field ends in a suffix. -/
theorem ofWireName_inverts :
    (∀ raw e, ofWireName raw = .error e ↔
      e = .invalidName raw ∧ raw ∈ ["", "_like", "_between", "_inSubquery"]) ∧
    (∀ raw name, ofWireName raw = .ok name → name.wireName = raw) ∧
    (∀ name : CriterionName, ofWireName name.wireName = .ok name ↔
      name.field ≠ "" ∧ (name.kind = .equals →
        ¬∃ suffix ∈ ["_like", "_between", "_inSubquery"], suffix.toList <:+ name.field.toList)) ∧
    (∀ raw raw' a b, ofWireName raw = .ok a → ofWireName raw' = .ok b →
      a.wireName = b.wireName → a = b) ∧
    ∀ a b : CriterionName, a ≠ b → a.wireName = b.wireName →
      ∃ name ∈ [a, b], name.kind = .equals ∧
        ∃ suffix ∈ ["_like", "_between", "_inSubquery"], suffix.toList <:+ name.field.toList := by
  refine ⟨fun raw e => ?_, fun raw name read => ?_, fun name => ?_,
    fun raw raw' a b readA readB wires => ?_, fun a b differ wires => ?_⟩
  · exact ofWireName_eq_error_iff
  · exact (ofWireName_eq_ok_iff.mp read).1.symm
  · rw [ofWireName_eq_ok_iff, and_iff_right rfl, IsCanonical, ← endsInSuffix_eq_true_iff_exists,
      Bool.not_eq_true]
  · exact (ofWireName_eq_ok_iff.mp readA).2.eq_of_wireName_eq (ofWireName_eq_ok_iff.mp readB).2
      wires
  · obtain ⟨name, mem, equality, ending⟩ := exists_endsInSuffix_of_wireName_eq differ wires
    exact ⟨name, mem, equality, endsInSuffix_eq_true_iff_exists.mp ending⟩

end CriterionName

end EntityQuery
