import Mathlib.Data.List.Nodup
import Mathlib.Data.List.Perm.Basic
import Mathlib.Order.Defs.Unbundled

/-!
# Lists in the order of a key

The members of an object and the criteria of a query are kept alike: in the
order of a key, and of the entries with one key the later stays.  Both are cases
of one way to place an entry.

## Main Definitions

* `SortedByKey`: the keys are strictly increasing.
* `placeByKey`, `placeAllByKey`: places one entry, or one after the other.

## Main Statements

* `SortedByKey.eq_of_perm`: entries in order are determined by what they are.
* `SortedByKey.place`, `SortedByKey.placeAll`: placing keeps the order.
* `perm_placeByKey`, `perm_placeAllByKey`: entries of new keys are added to
  those that are there.
* `filter_placeByKey`: they leave the others where they are.
-/

namespace EntityQuery

variable {α κ : Type}

/-- The keys are strictly increasing. -/
def SortedByKey (key : α → κ) (lt : κ → κ → Prop) (entries : List α) : Prop :=
  entries.Pairwise fun x y => lt (key x) (key y)

section Placing

variable [DecidableEq κ] (key : α → κ) (lt : κ → κ → Prop) [DecidableRel lt]

/-- Puts an entry at the place of its key, over one of the same key. -/
def placeByKey (x : α) : List α → List α
  | [] => [x]
  | y :: rest =>
    if key x = key y then x :: rest
    else if lt (key x) (key y) then x :: y :: rest
    else y :: placeByKey x rest

/-- Places entries in the order of a list. -/
def placeAllByKey (entries more : List α) : List α :=
  more.foldl (fun entries x => placeByKey key lt x entries) entries

end Placing

variable {key : α → κ} {lt : κ → κ → Prop} {entries others : List α}

/-! ## Order -/

theorem SortedByKey.keys_nodup [Std.Irrefl lt] (sorted : SortedByKey key lt entries) :
    (entries.map key).Nodup := by
  rw [List.nodup_iff_pairwise_ne, List.pairwise_map]
  refine sorted.imp fun {x y} before same => ?_
  rw [same] at before
  exact irrefl_of lt _ before

/-- Entries in order are determined by what they are. -/
theorem SortedByKey.eq_of_perm [IsStrictOrder κ lt] (sorted : SortedByKey key lt entries)
    (sorted' : SortedByKey key lt others) (perm : entries.Perm others) : entries = others :=
  perm.eq_of_pairwise
    (fun _ _ _ _ before after => absurd (trans_of lt before after) (irrefl_of lt _)) sorted sorted'

/-! ## Placing -/

variable [DecidableEq κ] [DecidableRel lt]

theorem eq_or_mem_of_mem_placeByKey {x y : α} (mem : y ∈ placeByKey key lt x entries) :
    y = x ∨ y ∈ entries := by
  induction entries with
  | nil => exact .inl (List.mem_singleton.mp mem)
  | cons head rest ih =>
    rw [placeByKey] at mem
    split at mem
    · exact (List.mem_cons.mp mem).imp_right (List.mem_cons_of_mem _)
    · split at mem
      · exact List.mem_cons.mp mem
      · rcases List.mem_cons.mp mem with rfl | mem
        · exact .inr List.mem_cons_self
        · exact (ih mem).imp_right (List.mem_cons_of_mem _)

/-- Placing keeps the order. -/
theorem SortedByKey.place [IsStrictTotalOrder κ lt] (sorted : SortedByKey key lt entries) (x : α) :
    SortedByKey key lt (placeByKey key lt x entries) := by
  induction entries with
  | nil => exact List.pairwise_singleton _ _
  | cons head rest ih =>
    obtain ⟨first, sorted'⟩ := List.pairwise_cons.mp sorted
    rw [placeByKey]
    split
    · rename_i same
      refine List.pairwise_cons.mpr ⟨fun y mem => ?_, sorted'⟩
      rw [same]
      exact first y mem
    · rename_i differ
      split
      · rename_i before
        refine List.pairwise_cons.mpr ⟨fun y mem => ?_, sorted⟩
        rcases List.mem_cons.mp mem with rfl | mem
        · exact before
        · exact trans_of lt before (first y mem)
      · rename_i notBefore
        refine List.pairwise_cons.mpr ⟨fun y mem => ?_, ih sorted'⟩
        rcases eq_or_mem_of_mem_placeByKey mem with rfl | mem
        · rcases trichotomous_of lt (key y) (key head) with before | same | after
          · exact absurd before notBefore
          · exact absurd same differ
          · exact after
        · exact first y mem

/-- An entry of a new key is added to those that are there. -/
theorem perm_placeByKey {x : α} (fresh : ∀ y ∈ entries, key y ≠ key x) :
    (placeByKey key lt x entries).Perm (x :: entries) := by
  induction entries with
  | nil => exact .refl _
  | cons head rest ih =>
    have differ : key x ≠ key head := (fresh head List.mem_cons_self).symm
    have rest' := ih fun y mem => fresh y (List.mem_cons_of_mem _ mem)
    rw [placeByKey, if_neg differ]
    split
    · exact .refl _
    · exact (rest'.cons _).trans (.swap _ _ _)

/-- An entry of a new key leaves the others in their order. -/
theorem filter_placeByKey {x : α} {keep : α → Bool} (dropped : keep x = false)
    (fresh : ∀ y ∈ entries, key y ≠ key x) :
    (placeByKey key lt x entries).filter keep = entries.filter keep := by
  induction entries with
  | nil => rw [placeByKey, List.filter_cons_of_neg (Bool.not_eq_true _ ▸ dropped)]
  | cons head rest ih =>
    have differ : key x ≠ key head := (fresh head List.mem_cons_self).symm
    have rest' := ih fun y mem => fresh y (List.mem_cons_of_mem _ mem)
    rw [placeByKey, if_neg differ]
    split
    · rw [List.filter_cons_of_neg (Bool.not_eq_true _ ▸ dropped)]
    · rw [List.filter_cons, rest', ← List.filter_cons]

/-! ## Placing one after the other -/

theorem mem_placeAllByKey {y : α} {more : List α} (mem : y ∈ placeAllByKey key lt entries more) :
    y ∈ entries ∨ y ∈ more := by
  induction more generalizing entries with
  | nil => exact .inl mem
  | cons x rest ih =>
    rcases ih mem with placed | later
    · rcases eq_or_mem_of_mem_placeByKey placed with rfl | before
      · exact .inr List.mem_cons_self
      · exact .inl before
    · exact .inr (List.mem_cons_of_mem _ later)

theorem SortedByKey.placeAll [IsStrictTotalOrder κ lt] (sorted : SortedByKey key lt entries)
    (more : List α) : SortedByKey key lt (placeAllByKey key lt entries more) := by
  induction more generalizing entries with
  | nil => exact sorted
  | cons x rest ih => exact ih (sorted.place x)

/-- Entries of distinct keys are all there after placing them. -/
theorem perm_placeAllByKey {more : List α} (distinct : ((entries ++ more).map key).Nodup) :
    (placeAllByKey key lt entries more).Perm (entries ++ more) := by
  induction more generalizing entries with
  | nil => simp [placeAllByKey]
  | cons x rest ih =>
    have moved : (entries ++ x :: rest).Perm (x :: entries ++ rest) := List.perm_middle
    have fresh : ∀ y ∈ entries, key y ≠ key x := by
      intro y mem same
      have absent := (List.nodup_cons.mp ((moved.map key).nodup_iff.mp distinct)).1
      exact absent (List.mem_map.mpr ⟨y, List.mem_append_left _ mem, same⟩)
    have placed : (placeByKey key lt x entries ++ rest).Perm (x :: entries ++ rest) :=
      (perm_placeByKey fresh).append_right rest
    have distinct' := ((moved.trans placed.symm).map key).nodup_iff.mp distinct
    exact (ih distinct').trans (placed.trans moved.symm)

end EntityQuery
