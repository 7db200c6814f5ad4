import EntityQuery.Proofs.Json.Members

/-!
# Normal forms

A value is normal if the members of every object in it are sorted by name.
Normalizing a value makes it so, and leaves a normal value as it is.

## Main Statements

* `Json.isNormal_object_iff`, `Json.isNormal_array_iff`: normal values by their
  parts.
* `Json.isNormal_normalize`, `Json.IsNormal.normalize_eq`: normalizing.
-/

namespace EntityQuery

namespace Json

/-! ## Parts -/

theorem normalizeItems_eq_map (items : List Json) : normalizeItems items = items.map normalize := by
  induction items with
  | nil => rfl
  | cons v rest ih => rw [normalizeItems, ih, List.map_cons]

theorem normalizeMembers_eq_map (members : List (String × Json)) :
    normalizeMembers members = members.map fun member => (member.1, member.2.normalize) := by
  induction members with
  | nil => rfl
  | cons member rest ih =>
    obtain ⟨name, v⟩ := member
    rw [normalizeMembers, ih, List.map_cons]

theorem normalize_object (members : List (String × Json)) :
    normalize (.object members) =
      .object (Members.ofList (members.map fun member => (member.1, member.2.normalize))) := by
  rw [normalize, normalizeMembers_eq_map]

theorem areNormal_iff {items : List Json} : AreNormal items ↔ ∀ v ∈ items, v.IsNormal := by
  induction items with
  | nil => simp [AreNormal]
  | cons v rest ih => rw [AreNormal, ih, List.forall_mem_cons]

theorem membersNormal_iff {members : List (String × Json)} :
    MembersNormal members ↔ ∀ member ∈ members, member.2.IsNormal := by
  induction members with
  | nil => simp [MembersNormal]
  | cons member rest ih =>
    obtain ⟨name, v⟩ := member
    rw [MembersNormal, ih, List.forall_mem_cons]

theorem isNormal_array_iff {items : List Json} :
    (Json.array items).IsNormal ↔ ∀ v ∈ items, v.IsNormal := by
  rw [IsNormal, areNormal_iff]

theorem isNormal_object_iff {members : List (String × Json)} :
    (Json.object members).IsNormal ↔
      Members.Sorted members ∧ ∀ member ∈ members, member.2.IsNormal := by
  rw [IsNormal, membersNormal_iff]

/-! ## Normalizing -/

theorem isNormal_normalize (v : Json) : v.normalize.IsNormal := by
  induction v using partInduction with
  | object members ih =>
    rw [normalize_object, isNormal_object_iff]
    refine ⟨Members.sorted_ofList _, fun member mem => ?_⟩
    obtain ⟨before, inside, rfl⟩ := List.mem_map.mp (Members.mem_of_mem_ofList mem)
    exact ih before inside
  | array items ih =>
    rw [normalize, normalizeItems_eq_map, isNormal_array_iff]
    intro v mem
    obtain ⟨before, inside, rfl⟩ := List.mem_map.mp mem
    exact ih before inside
  | leaf v noObject noArray =>
    cases v with
    | object members => exact absurd rfl (noObject members)
    | array items => exact absurd rfl (noArray items)
    | _ => trivial

/-- A normal value is its own normal form. -/
theorem IsNormal.normalize_eq {v : Json} (normal : v.IsNormal) : v.normalize = v := by
  induction v using partInduction with
  | object members ih =>
    obtain ⟨sorted, below⟩ := isNormal_object_iff.mp normal
    have each : ∀ member ∈ members, (member.1, member.2.normalize) = member :=
      fun member mem => Prod.ext rfl (ih member mem (below member mem))
    have same : (members.map fun member => (member.1, member.2.normalize)) = members := by
      rw [List.map_congr_left each, List.map_id']
    rw [normalize_object, same, Members.ofList_eq_of_perm sorted (.refl _)]
  | array items ih =>
    rw [isNormal_array_iff] at normal
    have same : items.map normalize = items := by
      rw [List.map_congr_left fun v mem => ih v mem (normal v mem), List.map_id']
    rw [normalize, normalizeItems_eq_map, same]
  | leaf v noObject noArray =>
    cases v with
    | object members => exact absurd rfl (noObject members)
    | array items => exact absurd rfl (noArray items)
    | _ => rfl

end Json

end EntityQuery
