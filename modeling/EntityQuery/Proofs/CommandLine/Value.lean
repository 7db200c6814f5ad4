import EntityQuery.CommandLine.Value
import EntityQuery.Proofs.Except
import EntityQuery.Proofs.Text

/-!
# Where option values are split

An assignment is split at its first equals sign, a range at the first two full
stops behind that, and a sort at its last colon.  So a field may hold any
character but the separator that ends it, and what follows may hold any at all.

## Main Statements

* `Assignment.ofText_eq_ok_iff`, `RangeAssignment.ofText_eq_ok_iff`,
  `sortKeyOf_eq_ok_iff`: what each text stands for.
* `Assignment.field_ne_of_ofText`, `RangeAssignment.field_ne_of_ofText`: what is
  read has a field.
* `Direction.ofName_eq_ok_iff`: the names of a direction.
* `values_split`: the three forms written and read back, and what is refused.

## Design Notes

Three full stops in a row are a separator and then one more, so a lower bound
that ends in a full stop loses it to the upper one.
-/

namespace EntityQuery

namespace Direction

variable {raw : String} {d : Direction}

theorem inAnyCase_name_iff : Text.InAnyCase d.name raw ↔ Text.lowerAscii raw = d.name := by
  have lower : ∀ letter ∈ d.name.toList, 0x61 ≤ letter.toNat ∧ letter.toNat ≤ 0x7A := by
    cases d <;> simp [Direction.name]
  exact (Text.lowerAscii_eq_iff lower).symm

/-- A direction goes by its name in any letter case. -/
theorem ofName_eq_ok_iff : ofName raw = .ok d ↔ Text.InAnyCase d.name raw := by
  rw [inAnyCase_name_iff, ofName]
  cases d with
  | asc => grind [name]
  | desc => grind [name]

/-- There is no colon in the name of a direction. -/
theorem colon_not_mem_of_inAnyCase (named : Text.InAnyCase d.name raw) : ':' ∉ raw.toList := by
  intro mem
  have lower : ':'.toLower ∈ (Text.lowerAscii raw).toList := by
    rw [Text.lowerAscii, String.toList_ofList]
    exact List.mem_map_of_mem mem
  rw [inAnyCase_name_iff.mp named] at lower
  cases d with
  | asc => exact absurd lower (by decide)
  | desc => exact absurd lower (by decide)

end Direction

namespace CommandLine

/-! ## Assignments -/

/-- A text is an assignment to a field that has no equals sign in it. -/
theorem Assignment.ofText_eq_ok_iff {raw : String} {a : Assignment} :
    ofText raw = .ok a ↔
      raw = a.field ++ "=" ++ a.value ∧ a.field ≠ "" ∧ '=' ∉ a.field.toList := by
  constructor
  · intro read
    rw [ofText] at read
    split at read
    · cases read
    · rename_i field value cut
      obtain ⟨whole, absent⟩ := Text.cutFirst_eq_some_iff.mp cut
      split at read
      · cases read
      · rename_i filled
        cases read
        refine ⟨String.toList_injective ?_, mt String.ofList_eq_empty_iff.mp filled, ?_⟩
        · simpa using whole
        · rwa [String.toList_ofList]
  · rintro ⟨rfl, filled, absent⟩
    have cut : Text.cutFirst '=' (a.field ++ "=" ++ a.value).toList =
        some (a.field.toList, a.value.toList) :=
      Text.cutFirst_eq_some_iff.mpr ⟨by simp, absent⟩
    simp only [ofText, cut, if_neg (mt String.toList_eq_nil_iff.mp filled), String.ofList_toList]

/-- A text without an equals sign is none, and neither is one that starts with it. -/
theorem Assignment.ofText_eq_error_iff {raw : String} {e : ValueFault} :
    ofText raw = .error e ↔
      '=' ∉ raw.toList ∧ e = .notAssignment raw ∨
        raw.toList.head? = some '=' ∧ e = .missingField raw := by
  rw [ofText]
  cases cut : Text.cutFirst '=' raw.toList with
  | none =>
    have absent := Text.cutFirst_eq_none_iff.mp cut
    have other : raw.toList.head? ≠ some '=' := fun first => absent (List.mem_of_mem_head? first)
    simp [absent, other, eq_comm]
  | some sides =>
    obtain ⟨field, value⟩ := sides
    obtain ⟨whole, absent⟩ := Text.cutFirst_eq_some_iff.mp cut
    cases field with
    | nil => simp [whole, eq_comm]
    | cons c field =>
      have other : c ≠ '=' := fun same => absent (same ▸ List.mem_cons_self)
      simp [whole, other]

/-- The field of an assignment is not empty. -/
theorem Assignment.field_ne_of_ofText {raw : String} {a : Assignment}
    (read : Assignment.ofText raw = .ok a) : a.field ≠ "" :=
  (ofText_eq_ok_iff.mp read).2.1

/-! ## Ranges -/

/-- A text is a range if it is an assignment of two bounds, the first two full stops of which stand
between them. -/
theorem RangeAssignment.ofText_eq_ok_iff {raw : String} {r : RangeAssignment} :
    ofText raw = .ok r ↔
      raw = r.field ++ "=" ++ r.lower ++ ".." ++ r.upper ∧ r.field ≠ "" ∧ '=' ∉ r.field.toList ∧
        ¬"..".toList <:+: r.lower.toList ∧ r.lower.toList.getLast? ≠ some '.' := by
  rw [ofText, Except.bind_eq_ok_iff]
  constructor
  · rintro ⟨a, read, cut⟩
    obtain ⟨rfl, filled, absent⟩ := Assignment.ofText_eq_ok_iff.mp read
    split at cut
    · cases cut
    · rename_i lower upper found
      obtain ⟨whole, single, other⟩ := Text.cutFirstPair_eq_some_iff.mp found
      cases cut
      simp only [String.toList_ofList]
      exact ⟨String.toList_injective (by simp [whole]), filled, absent, single, other⟩
  · rintro ⟨rfl, filled, absent, single, other⟩
    refine ⟨{ field := r.field, value := r.lower ++ ".." ++ r.upper },
      Assignment.ofText_eq_ok_iff.mpr ⟨?_, filled, absent⟩, ?_⟩
    · simp only [String.append_assoc]
    · have found : Text.cutFirstPair '.' (r.lower ++ ".." ++ r.upper).toList =
          some (r.lower.toList, r.upper.toList) :=
        Text.cutFirstPair_eq_some_iff.mpr ⟨by simp, single, other⟩
      simp only [found, String.ofList_toList]
      rfl

/-- The field of a range is not empty. -/
theorem RangeAssignment.field_ne_of_ofText {raw : String} {r : RangeAssignment}
    (read : RangeAssignment.ofText raw = .ok r) : r.field ≠ "" :=
  (ofText_eq_ok_iff.mp read).2.1

/-! ## Sorts -/

/-- Without a colon, the whole text is the field. -/
theorem sortKeyOf_of_colon_not_mem {raw : String} (absent : ':' ∉ raw.toList) :
    sortKeyOf raw =
      if raw = "" then .error (.missingField raw) else .ok { field := raw, direction := .asc } := by
  simp only [sortKeyOf, Text.cutLast_eq_none absent, pure_bind]
  split <;> rfl

/-- With one, the field is what stands before the last, and what stands behind it is read first. -/
theorem sortKeyOf_append {field name : String} (last : ':' ∉ name.toList) :
    sortKeyOf (field ++ ":" ++ name) =
      match Direction.ofName name with
      | .error e => .error (.notDirection e)
      | .ok direction =>
        if field = "" then .error (.missingField (field ++ ":" ++ name))
        else .ok { field, direction } := by
  have cut : Text.cutLast ':' (field ++ ":" ++ name).toList = some (field.toList, name.toList) :=
    Text.cutLast_eq_some_iff.mpr ⟨by simp, last⟩
  simp only [sortKeyOf, cut, String.ofList_toList]
  cases Direction.ofName name with
  | error e => rfl
  | ok direction =>
    simp only [pure_bind]
    split <;> rfl

/-- A text is a sort on a field, in the direction that is named behind its last colon; without a
colon it is an ascending one. -/
theorem sortKeyOf_eq_ok_iff {raw : String} {key : SortKey} :
    sortKeyOf raw = .ok key ↔ key.field ≠ "" ∧
      ((∃ name, raw = key.field ++ ":" ++ name ∧ Text.InAnyCase key.direction.name name) ∨
        raw = key.field ∧ ':' ∉ raw.toList ∧ key.direction = .asc) := by
  obtain ⟨field, direction⟩ := key
  constructor
  · intro read
    by_cases mem : ':' ∈ raw.toList
    · obtain ⟨front, back, whole, last⟩ := Text.exists_last_place mem
      obtain rfl : raw = String.ofList front ++ ":" ++ String.ofList back :=
        String.toList_injective (by simp [whole])
      rw [sortKeyOf_append (by rwa [String.toList_ofList])] at read
      cases named : Direction.ofName (String.ofList back) with
      | error e => simp [named] at read
      | ok d =>
        simp only [named] at read
        split at read
        · cases read
        · rename_i filled
          cases read
          exact ⟨filled, .inl ⟨_, rfl, Direction.ofName_eq_ok_iff.mp named⟩⟩
    · rw [sortKeyOf_of_colon_not_mem mem] at read
      split at read
      · cases read
      · rename_i filled
        cases read
        exact ⟨filled, .inr ⟨rfl, mem, rfl⟩⟩
  · rintro ⟨filled, ⟨name, rfl, named⟩ | ⟨rfl, absent, ⟨⟩⟩⟩
    · rw [sortKeyOf_append (Direction.colon_not_mem_of_inAnyCase named)]
      simp only [Direction.ofName_eq_ok_iff.mpr named, if_neg filled]
    · rw [sortKeyOf_of_colon_not_mem absent, if_neg filled]

/-- Option values are split exactly at their separators.  An assignment is what stands before and
behind its first equals sign, and only a text without one or with one in front is none.  A range
that is written with two bounds is read as these bounds exactly if there are no two full stops in a
row in the lower one and none at its end.  A sort is what stands before the last colon with a
direction behind it, whatever colons are in the field, or ascending if there is no colon; any other
text is no sort. -/
theorem values_split :
    (∀ field value, field ≠ "" → '=' ∉ field.toList →
      Assignment.ofText (field ++ "=" ++ value) = .ok { field, value }) ∧
    (∀ raw, (∃ e, Assignment.ofText raw = .error e) ↔
      '=' ∉ raw.toList ∨ raw.toList.head? = some '=') ∧
    (∀ field lower upper, field ≠ "" → '=' ∉ field.toList →
      (RangeAssignment.ofText (field ++ "=" ++ lower ++ ".." ++ upper) =
          .ok { field, lower, upper } ↔
        ¬"..".toList <:+: lower.toList ∧ lower.toList.getLast? ≠ some '.')) ∧
    (∀ field name direction, field ≠ "" → Text.InAnyCase (Direction.name direction) name →
      sortKeyOf (field ++ ":" ++ name) = .ok { field, direction }) ∧
    (∀ field, field ≠ "" → ':' ∉ field.toList →
      sortKeyOf field = .ok { field, direction := .asc }) ∧
    ∀ raw, (∀ field name direction, field ≠ "" → Text.InAnyCase (Direction.name direction) name →
        raw ≠ field ++ ":" ++ name) →
      raw = "" ∨ ':' ∈ raw.toList → ∃ e, sortKeyOf raw = .error e := by
  refine ⟨fun field value filled absent => ?_, fun raw => ?_,
    fun field lower upper filled absent => ?_, fun field name direction filled named => ?_,
    fun field filled absent => ?_, fun raw unnamed other => ?_⟩
  · exact Assignment.ofText_eq_ok_iff.mpr ⟨rfl, filled, absent⟩
  · simp only [Assignment.ofText_eq_error_iff, exists_or, exists_and_left, exists_eq, and_true]
  · rw [RangeAssignment.ofText_eq_ok_iff, and_iff_right rfl, and_iff_right filled,
      and_iff_right absent]
  · exact sortKeyOf_eq_ok_iff.mpr ⟨filled, .inl ⟨name, rfl, named⟩⟩
  · exact sortKeyOf_eq_ok_iff.mpr ⟨filled, .inr ⟨rfl, absent, rfl⟩⟩
  · cases read : sortKeyOf raw with
    | error e => exact ⟨e, rfl⟩
    | ok key =>
      obtain ⟨filled, ⟨name, rfl, named⟩ | ⟨rfl, absent, -⟩⟩ := sortKeyOf_eq_ok_iff.mp read
      · exact absurd rfl (unnamed _ name _ filled named)
      · exact absurd other (not_or.mpr ⟨filled, absent⟩)

end CommandLine

end EntityQuery
