import Mathlib.Data.Prod.Lex
import Mathlib.Data.String.Basic
import Mathlib.Order.RelIso.Basic
import EntityQuery.Criteria.Bounded
import EntityQuery.Proofs.ByKey

/-!
# The order of criteria

Criteria are kept in the order of their names, and no two of them share a wire
name.  Placing, setting and erasing a criterion keep both.

## Main Definitions

* `Criteria.Sorted`: the names are strictly increasing.
* `Criteria.Keyed`: sorted, and unique by wire name.

## Main Statements

* `Criteria.perm_placeAll`, `Criteria.perm_set`: what is there after placing or
  setting criteria.
* `Criteria.filter_set`, `Criteria.filter_set_eq`: the others stay as they are
  when a criterion is set, and it is the only one of its wire name.
* `Criteria.Keyed.set`, `Criteria.Keyed.erase`: both keep criteria keyed.
* `Criteria.Keyed.predicate?_eq_some_iff`: looking up a name.
-/

namespace EntityQuery

namespace CriterionName

theorem lt_iff {a b : CriterionName} :
    a.lt b ↔ a.field < b.field ∨ a.field = b.field ∧ a.kind.rank < b.kind.rank := by
  rw [lt, Bool.or_eq_true, Bool.and_eq_true, decide_eq_true_iff, decide_eq_true_iff, beq_iff_eq]

/-- Names are ordered like pairs of a field and the rank of a kind. -/
def lexEmbedding :
    (fun a b : CriterionName => a.lt b) ↪r (fun a b : Lex (String × Nat) => a < b) where
  toFun name := toLex (name.field, name.kind.rank)
  inj' := by
    rintro ⟨field, kind⟩ ⟨field', kind'⟩ same
    obtain ⟨fields, ranks⟩ := Prod.mk.inj (toLex_inj.mp same)
    rw [CriterionName.mk.injEq]
    exact ⟨fields, PredicateKind.rank_injective ranks⟩
  map_rel_iff' := by
    intro a b
    rw [lt_iff]
    exact Prod.Lex.toLex_lt_toLex

instance : IsStrictTotalOrder CriterionName fun a b => a.lt b :=
  lexEmbedding.isStrictTotalOrder

end CriterionName

namespace Criteria

/-- The names are strictly increasing. -/
abbrev Sorted (criteria : Criteria) : Prop :=
  SortedByKey Criterion.name (fun a b => a.lt b) criteria

/-- No wire name stands twice. -/
def WireDistinct (criteria : Criteria) : Prop :=
  (criteria.map (·.wireName)).Nodup

/-- In the order of the names, and unique by wire name. -/
structure Keyed (criteria : Criteria) : Prop where
  sorted : Sorted criteria
  distinct : WireDistinct criteria

theorem keyed_nil : Keyed [] :=
  ⟨List.Pairwise.nil, List.nodup_nil⟩

/-! ## Placing -/

theorem place_eq (c : Criterion) (criteria : Criteria) :
    place c criteria = placeByKey Criterion.name (fun a b => a.lt b) c criteria := by
  induction criteria with
  | nil => rfl
  | cons x rest ih => rw [place, placeByKey, ih]

theorem Sorted.place {criteria : Criteria} (sorted : Sorted criteria) (c : Criterion) :
    Sorted (place c criteria) := by
  rw [place_eq]
  exact SortedByKey.place sorted c

/-- Places criteria in the order of a list. -/
def placeAll (criteria : Criteria) (more : List Criterion) : Criteria :=
  more.foldl (fun criteria c => place c criteria) criteria

theorem placeAll_eq (criteria : Criteria) (more : List Criterion) :
    placeAll criteria more =
      placeAllByKey Criterion.name (fun a b => a.lt b) criteria more := by
  simp only [placeAll, placeAllByKey, place_eq]

theorem Sorted.placeAll {criteria : Criteria} (sorted : Sorted criteria) (more : List Criterion) :
    Sorted (placeAll criteria more) := by
  rw [placeAll_eq]
  exact SortedByKey.placeAll sorted more

theorem mem_placeAll {x : Criterion} {criteria : Criteria} {more : List Criterion}
    (mem : x ∈ placeAll criteria more) : x ∈ criteria ∨ x ∈ more := by
  rw [placeAll_eq] at mem
  exact mem_placeAllByKey mem

/-- Criteria with distinct names are all there after placing them. -/
theorem perm_placeAll {criteria : Criteria} {more : List Criterion}
    (distinct : ((criteria ++ more).map Criterion.name).Nodup) :
    (placeAll criteria more).Perm (criteria ++ more) := by
  rw [placeAll_eq]
  exact perm_placeAllByKey distinct

/-! ## Setting and erasing -/

/-- No name is left that a new criterion of the same wire name could meet. -/
theorem name_ne_of_mem_filter {c x : Criterion} {criteria : Criteria}
    (mem : x ∈ criteria.filter (·.wireName ≠ c.wireName)) : x.name ≠ c.name := by
  have other : x.wireName ≠ c.wireName := by simpa using (List.mem_filter.mp mem).2
  exact fun same => other (congrArg CriterionName.wireName same)

/-- After setting a criterion there are it and those of other wire names. -/
theorem perm_set (c : Criterion) (criteria : Criteria) :
    (set c criteria).Perm (c :: criteria.filter (·.wireName ≠ c.wireName)) := by
  rw [set, place_eq]
  exact perm_placeByKey fun x mem => name_ne_of_mem_filter mem

/-- Setting a criterion leaves what has nothing to do with its wire name. -/
theorem filter_set {keep : Criterion → Bool} {c : Criterion}
    (dropped : ∀ x : Criterion, x.wireName = c.wireName → keep x = false) (criteria : Criteria) :
    (set c criteria).filter keep = criteria.filter keep := by
  rw [set, place_eq]
  refine (filter_placeByKey (dropped c rfl) fun x mem => name_ne_of_mem_filter mem).trans ?_
  rw [List.filter_filter]
  refine List.filter_congr fun x _ => ?_
  by_cases same : x.wireName = c.wireName
  · rw [dropped x same, Bool.false_and]
  · rw [decide_eq_true same, Bool.and_true]

/-- Setting a criterion leaves those of other wire names as they are. -/
theorem filter_set_ne (c : Criterion) (criteria : Criteria) :
    (set c criteria).filter (·.wireName ≠ c.wireName) =
      criteria.filter (·.wireName ≠ c.wireName) :=
  filter_set (fun _ same => decide_eq_false (not_not.mpr same)) criteria

/-- A criterion that is set is the only one of its wire name. -/
theorem filter_set_eq (c : Criterion) (criteria : Criteria) :
    (set c criteria).filter (·.wireName = c.wireName) = [c] := by
  have perm := (perm_set c criteria).filter (·.wireName = c.wireName)
  have none : (criteria.filter (·.wireName ≠ c.wireName)).filter (·.wireName = c.wireName) = [] := by
    simp [List.filter_filter]
  rw [List.filter_cons, none, if_pos (decide_eq_true rfl)] at perm
  exact List.perm_singleton.mp perm

/-- A criterion that is set is found under its name. -/
theorem predicate?_set (c : Criterion) (criteria : Criteria) :
    predicate? c.name (set c criteria) = some c.predicate := by
  have inside : c ∈ set c criteria := (perm_set c criteria).mem_iff.mpr List.mem_cons_self
  have hit : ((set c criteria).find? (·.name = c.name)).isSome :=
    List.find?_isSome.mpr ⟨c, inside, decide_eq_true rfl⟩
  obtain ⟨x, found⟩ := Option.isSome_iff_exists.mp hit
  have named : x.name = c.name := by simpa using List.find?_some found
  have own : x ∈ (set c criteria).filter (·.wireName = c.wireName) :=
    List.mem_filter.mpr ⟨List.mem_of_find?_eq_some found,
      decide_eq_true (congrArg CriterionName.wireName named)⟩
  rw [filter_set_eq] at own
  rw [predicate?, found, List.mem_singleton.mp own]
  rfl

namespace Keyed

variable {criteria : Criteria}

theorem filter (keyed : Keyed criteria) (keep : Criterion → Bool) :
    Keyed (criteria.filter keep) :=
  ⟨keyed.sorted.filter keep, keyed.distinct.sublist (List.filter_sublist.map _)⟩

theorem set (keyed : Keyed criteria) (c : Criterion) : Keyed (set c criteria) := by
  have kept := keyed.filter (·.wireName ≠ c.wireName)
  refine ⟨kept.sorted.place c, ?_⟩
  rw [WireDistinct, ((perm_set c criteria).map _).nodup_iff, List.map_cons]
  refine List.nodup_cons.mpr ⟨fun mem => ?_, kept.distinct⟩
  obtain ⟨x, mem, same⟩ := List.mem_map.mp mem
  simp [same] at mem

theorem erase (keyed : Keyed criteria) (name : CriterionName) : Keyed (erase name criteria) :=
  keyed.filter _

/-- A name has the predicate of the one criterion that goes by it. -/
theorem predicate?_eq_some_iff (keyed : Keyed criteria) {name : CriterionName} {p : Predicate} :
    predicate? name criteria = some p ↔ ∃ c ∈ criteria, c.name = name ∧ c.predicate = p := by
  rw [predicate?, Option.map_eq_some_iff]
  constructor
  · rintro ⟨c, found, rfl⟩
    exact ⟨c, List.mem_of_find?_eq_some found, by simpa using List.find?_some found, rfl⟩
  · rintro ⟨c, mem, named, rfl⟩
    have hit : (criteria.find? (·.name = name)).isSome :=
      List.find?_isSome.mpr ⟨c, mem, by simpa using named⟩
    obtain ⟨x, found⟩ := Option.isSome_iff_exists.mp hit
    have named' : x.name = name := by simpa using List.find?_some found
    have same : x = c :=
      List.inj_on_of_nodup_map keyed.sorted.keys_nodup (List.mem_of_find?_eq_some found) mem
        (named'.trans named.symm)
    exact ⟨x, found, congrArg Criterion.predicate same⟩

end Keyed

end Criteria

end EntityQuery
