import Mathlib.Data.String.Basic
import EntityQuery.Json.Basic
import EntityQuery.Proofs.ByKey

/-!
# Member lists as finite maps

Members with distinct names are a finite map, whatever their order.  Sorting
them loses none and adds none.

## Main Statements

* `Members.lookup_eq_some_iff`, `Members.lookup_eq_of_perm`: look-ups among
  members with distinct names.
* `Members.sorted_ofList`, `Members.perm_ofList`, `Members.lookup_ofList`: sorting
  them.
* `Members.lookup_overwrite`: of what is written under one name the last is found.
* `Json.partInduction`, `Json.memberInduction`: induction that goes into the parts
  of a value, or into the members of objects only.
-/

namespace EntityQuery

namespace Members

variable {α : Type}

/-- Every name stands once. -/
def Distinct (entries : List (String × α)) : Prop :=
  (entries.map (·.1)).Nodup

theorem Distinct.perm {entries others : List (String × α)} (distinct : Distinct entries)
    (perm : entries.Perm others) : Distinct others :=
  (perm.map _).nodup_iff.mp distinct

theorem lookup_cons (query name : String) (value : α) (rest : List (String × α)) :
    ((name, value) :: rest).lookup query =
      if query = name then some value else rest.lookup query := by
  by_cases same : query = name
  · simp [same]
  · simp [List.lookup_cons, beq_false_of_ne same, same]

/-- With distinct names, looking up a name and finding its member are the same. -/
theorem lookup_eq_some_iff {entries : List (String × α)} (distinct : Distinct entries)
    {name : String} {value : α} :
    entries.lookup name = some value ↔ (name, value) ∈ entries := by
  induction entries with
  | nil => simp
  | cons entry rest ih =>
    obtain ⟨n, v⟩ := entry
    obtain ⟨fresh, distinct⟩ := List.nodup_cons.mp distinct
    rw [lookup_cons, List.mem_cons, Prod.mk.injEq]
    by_cases same : name = n
    · subst same
      have absent : (name, value) ∉ rest := fun mem => fresh (List.mem_map.mpr ⟨_, mem, rfl⟩)
      simp [absent, eq_comm]
    · simp [same, ih distinct]

/-- The order of members with distinct names has no part in a look-up. -/
theorem lookup_eq_of_perm {entries others : List (String × α)} (distinct : Distinct entries)
    (perm : entries.Perm others) (name : String) : entries.lookup name = others.lookup name := by
  apply Option.ext
  intro value
  rw [lookup_eq_some_iff distinct, lookup_eq_some_iff (distinct.perm perm), perm.mem_iff]

/-! ## Sorting members -/

theorem sorted_iff {entries : List (String × α)} :
    Sorted entries ↔ SortedByKey Prod.fst (· < ·) entries :=
  Iff.rfl

/-- Being sorted is up to the names alone. -/
theorem sorted_iff_names {entries : List (String × α)} :
    Sorted entries ↔ (entries.map (·.1)).Pairwise (· < ·) := by
  rw [Sorted, List.pairwise_map]

theorem Sorted.distinct {entries : List (String × α)} (sorted : Sorted entries) :
    Distinct entries :=
  (sorted_iff.mp sorted).keys_nodup

theorem insert_eq (name : String) (value : α) (entries : List (String × α)) :
    insert name value entries = placeByKey Prod.fst (· < ·) (name, value) entries := by
  induction entries with
  | nil => rfl
  | cons entry rest ih => rw [insert, placeByKey, ih]

theorem ofList_eq (entries : List (String × α)) :
    ofList entries = placeAllByKey Prod.fst (· < ·) [] entries := by
  simp only [ofList, placeAllByKey, insert_eq]

theorem sorted_ofList (entries : List (String × α)) : Sorted (ofList entries) := by
  rw [ofList_eq]
  exact SortedByKey.placeAll List.Pairwise.nil entries

/-- Sorting members with distinct names loses none and adds none. -/
theorem perm_ofList {entries : List (String × α)} (distinct : Distinct entries) :
    (ofList entries).Perm entries := by
  rw [ofList_eq]
  exact perm_placeAllByKey distinct

/-- What is sorted already tells the outcome of sorting. -/
theorem ofList_eq_of_perm {entries others : List (String × α)} (sorted : Sorted others)
    (perm : entries.Perm others) : ofList entries = others := by
  have distinct := sorted.distinct.perm perm.symm
  exact (sorted_iff.mp (sorted_ofList entries)).eq_of_perm (sorted_iff.mp sorted)
    ((perm_ofList distinct).trans perm)

theorem mem_of_mem_ofList {entries : List (String × α)} {entry : String × α}
    (mem : entry ∈ ofList entries) : entry ∈ entries := by
  rw [ofList_eq] at mem
  exact (mem_placeAllByKey mem).resolve_left List.not_mem_nil

/-- Sorting members with distinct names changes no look-up. -/
theorem lookup_ofList {entries : List (String × α)} (distinct : Distinct entries) (name : String) :
    (ofList entries).lookup name = entries.lookup name :=
  (lookup_eq_of_perm distinct (perm_ofList distinct).symm name).symm

/-! ## Overwriting members -/

/-- What is put under a name is met first, whatever the order of the members. -/
theorem lookup_insert (name : String) (value : α) (entries : List (String × α)) (query : String) :
    (insert name value entries).lookup query = ((name, value) :: entries).lookup query := by
  induction entries with
  | nil => rfl
  | cons entry rest ih =>
    obtain ⟨n, v⟩ := entry
    rw [insert]
    by_cases same : name = n
    · subst same
      rw [if_pos rfl, lookup_cons, lookup_cons, lookup_cons]
      by_cases hit : query = name
      · rw [if_pos hit, if_pos hit]
      · rw [if_neg hit, if_neg hit, if_neg hit]
    · rw [if_neg same]
      split
      · rfl
      · rw [lookup_cons, ih, lookup_cons, lookup_cons, lookup_cons]
        by_cases hit : query = n
        · rw [if_pos hit, if_pos hit, if_neg (hit ▸ Ne.symm same)]
        · rw [if_neg hit, if_neg hit]

/-- Members overwritten by more of them, from left to right. -/
def overwrite (entries more : List (String × α)) : List (String × α) :=
  more.foldl (fun entries (name, value) => insert name value entries) entries

/-- Of what is written under a name the last is found, and else what was there. -/
theorem lookup_overwrite (entries more : List (String × α)) (name : String) :
    (overwrite entries more).lookup name = (more.reverse ++ entries).lookup name := by
  induction more generalizing entries with
  | nil => rfl
  | cons member rest ih =>
    obtain ⟨n, v⟩ := member
    rw [overwrite, List.foldl_cons, ← overwrite, ih, List.lookup_append, lookup_insert,
      ← List.lookup_append, List.reverse_cons, List.append_assoc, List.singleton_append]

theorem ofList_append (entries more : List (String × α)) :
    ofList (entries ++ more) = overwrite (ofList entries) more :=
  List.foldl_append

theorem lookup_ofList_eq_reverse (entries : List (String × α)) (name : String) :
    (ofList entries).lookup name = entries.reverse.lookup name := by
  have written := lookup_overwrite [] entries name
  rwa [List.append_nil] at written

/-- A look-up meets the members of its name only. -/
theorem lookup_filter (entries : List (String × α)) (name : String) :
    (entries.filter (·.1 = name)).lookup name = entries.lookup name := by
  induction entries with
  | nil => rfl
  | cons entry rest ih =>
    obtain ⟨n, v⟩ := entry
    rw [lookup_cons, List.filter_cons]
    by_cases same : n = name
    · rw [if_pos (decide_eq_true same), lookup_cons, if_pos same.symm, if_pos same.symm]
    · rw [if_neg (by simpa using same), ih, if_neg (Ne.symm same)]

/-- Sorted members are told by what is found under each name. -/
theorem ofList_eq_of_lookup_eq {entries others : List (String × α)}
    (same : ∀ name, (ofList entries).lookup name = (ofList others).lookup name) :
    ofList entries = ofList others := by
  have sorted := sorted_ofList entries
  have sorted' := sorted_ofList others
  refine (sorted_iff.mp sorted).eq_of_perm (sorted_iff.mp sorted') ?_
  refine (List.perm_ext_iff_of_nodup sorted.distinct.of_map sorted'.distinct.of_map).mpr ?_
  rintro ⟨name, value⟩
  rw [← lookup_eq_some_iff sorted.distinct, ← lookup_eq_some_iff sorted'.distinct, same]

end Members

namespace Json

theorem sizeOf_member_lt {members : List (String × Json)} {member : String × Json}
    (mem : member ∈ members) : sizeOf member.2 < sizeOf (Json.object members) := by
  have inside := List.sizeOf_lt_of_mem mem
  obtain ⟨name, v⟩ := member
  simp only [Prod.mk.sizeOf_spec, object.sizeOf_spec] at inside ⊢
  omega

theorem sizeOf_item_lt {items : List Json} {v : Json} (mem : v ∈ items) :
    sizeOf v < sizeOf (Json.array items) := by
  have inside := List.sizeOf_lt_of_mem mem
  simp only [array.sizeOf_spec]
  omega

/-- What passes from the parts of a value to the value holds of every value. -/
theorem partInduction {motive : Json → Prop}
    (object : ∀ members, (∀ member ∈ members, motive member.2) → motive (.object members))
    (array : ∀ items, (∀ v ∈ items, motive v) → motive (.array items))
    (leaf : ∀ v, (∀ members, v ≠ .object members) → (∀ items, v ≠ .array items) → motive v)
    (v : Json) : motive v := by
  induction h : sizeOf v using Nat.strongRecOn generalizing v with
  | ind n ih =>
    subst h
    cases v with
    | object members => exact object members fun _ mem => ih _ (sizeOf_member_lt mem) _ rfl
    | array items => exact array items fun _ mem => ih _ (sizeOf_item_lt mem) _ rfl
    | _ => exact leaf _ nofun nofun

/-- The same for values whose only parts that matter are members of objects. -/
theorem memberInduction {motive : Json → Prop}
    (object : ∀ members, (∀ member ∈ members, motive member.2) → motive (.object members))
    (other : ∀ v, (∀ members, v ≠ .object members) → motive v) (v : Json) : motive v :=
  v.partInduction object (fun _ _ => other _ nofun) fun v noObject _ => other v noObject

end Json

end EntityQuery
