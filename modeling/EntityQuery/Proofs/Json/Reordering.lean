import EntityQuery.Proofs.Json.Normal

/-!
# Objects without order

The members of an object have no order, as long as no name stands twice.  Two
values are then the same unordered value if one is a reordering of the other.

## Main Definitions

* `Json.HasPart`: the parts of a value, at any depth.
* `Json.NamesDistinct`: no object of a value repeats a name.
* `Json.Reorders`: members of objects are moved, at any depth, and nothing else.

## Main Statements

* `Json.namesDistinct_object_iff`, `Json.namesDistinct_array_iff`: distinct names
  by the parts of a value.
* `Json.reorders_normalize`: normalizing a value of distinct names moves members
  and drops none.

## Design Notes

Of repeated names normalizing keeps the last, so there a value and its normal
form are not reorderings of each other.
-/

namespace EntityQuery

namespace Json

/-- `part` is the whole of a value, or stands in it at some depth. -/
inductive HasPart : Json → Json → Prop
  | whole (v : Json) : HasPart v v
  | member {members : List (String × Json)} {name : String} {v part : Json}
      (mem : (name, v) ∈ members) (inner : HasPart v part) : HasPart (.object members) part
  | item {items : List Json} {v part : Json} (mem : v ∈ items) (inner : HasPart v part) :
      HasPart (.array items) part

/-- No object in a value repeats a name. -/
def NamesDistinct (v : Json) : Prop :=
  ∀ members, HasPart v (.object members) → Members.Distinct members

theorem namesDistinct_object_iff {members : List (String × Json)} :
    (Json.object members).NamesDistinct ↔
      Members.Distinct members ∧ ∀ member ∈ members, member.2.NamesDistinct := by
  constructor
  · intro distinct
    exact ⟨distinct _ (.whole _), fun _ mem _ part => distinct _ (.member mem part)⟩
  · rintro ⟨root, below⟩ _ part
    cases part with
    | whole => exact root
    | member mem inner => exact below _ mem _ inner

theorem namesDistinct_array_iff {items : List Json} :
    (Json.array items).NamesDistinct ↔ ∀ v ∈ items, v.NamesDistinct := by
  constructor
  · exact fun distinct _ mem _ part => distinct _ (.item mem part)
  · intro below _ part
    cases part with
    | item mem inner => exact below _ mem _ inner

/-- Other values have no names. -/
theorem namesDistinct_leaf {v : Json} (noObject : ∀ members, v ≠ .object members)
    (noArray : ∀ items, v ≠ .array items) : v.NamesDistinct := by
  intro members part
  cases part with
  | whole => exact absurd rfl (noObject members)
  | member => exact absurd rfl (noObject _)
  | item => exact absurd rfl (noArray _)

/-! ## Reorderings -/

/-- Members of objects are moved, at any depth, and nothing else is changed. -/
inductive Reorders : Json → Json → Prop
  | refl (v : Json) : Reorders v v
  | move {members others : List (String × Json)} (perm : members.Perm others) :
      Reorders (.object members) (.object others)
  | member (before : List (String × Json)) (name : String) (after : List (String × Json))
      {v w : Json} (inner : Reorders v w) :
      Reorders (.object (before ++ (name, v) :: after)) (.object (before ++ (name, w) :: after))
  | item (before after : List Json) {v w : Json} (inner : Reorders v w) :
      Reorders (.array (before ++ v :: after)) (.array (before ++ w :: after))
  | trans {u v w : Json} (first : Reorders u v) (second : Reorders v w) : Reorders u w

/-- The values of some members may be reordered all at once, whatever stands before them. -/
theorem Reorders.members {members : List (String × Json)} {f : Json → Json}
    (each : ∀ member ∈ members, Reorders member.2 (f member.2))
    (before : List (String × Json)) :
    Reorders (.object (before ++ members))
      (.object (before ++ members.map fun member => (member.1, f member.2))) := by
  induction members generalizing before with
  | nil => exact .refl _
  | cons member rest ih =>
    obtain ⟨name, v⟩ := member
    rw [List.forall_mem_cons] at each
    have rest' := ih each.2 (before ++ [(name, f v)])
    rw [List.append_assoc, List.append_assoc] at rest'
    exact (Reorders.member before name rest each.1).trans rest'

/-- So may the items of an array. -/
theorem Reorders.items {items : List Json} {f : Json → Json}
    (each : ∀ v ∈ items, Reorders v (f v)) (before : List Json) :
    Reorders (.array (before ++ items)) (.array (before ++ items.map f)) := by
  induction items generalizing before with
  | nil => exact .refl _
  | cons v rest ih =>
    rw [List.forall_mem_cons] at each
    have rest' := ih each.2 (before ++ [f v])
    rw [List.append_assoc, List.append_assoc] at rest'
    exact (Reorders.item before rest each.1).trans rest'

/-- Where no name is repeated, normalizing moves members and drops none. -/
theorem reorders_normalize {v : Json} (distinct : v.NamesDistinct) : v.Reorders v.normalize := by
  induction v using partInduction with
  | object members ih =>
    obtain ⟨root, below⟩ := namesDistinct_object_iff.mp distinct
    have values := Reorders.members (fun member mem => ih member mem (below member mem)) []
    have root' : Members.Distinct (members.map fun member => (member.1, member.2.normalize)) := by
      rw [Members.Distinct, List.map_map]
      exact root
    rw [normalize_object]
    exact values.trans (.move (Members.perm_ofList root').symm)
  | array items ih =>
    rw [namesDistinct_array_iff] at distinct
    rw [normalize, normalizeItems_eq_map]
    exact Reorders.items (fun v mem => ih v mem (distinct v mem)) []
  | leaf v noObject noArray =>
    cases v with
    | object members => exact absurd rfl (noObject members)
    | array items => exact absurd rfl (noArray items)
    | _ => exact .refl _

end Json

end EntityQuery
