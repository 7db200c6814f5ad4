import EntityQuery.Query.Basic
import Mathlib.Data.List.Basic
import Mathlib.Data.List.Induction

/-!
# The projection as an ordered set

A projection that is given replaces the one that there is, field by field: each
is selected unless it is there already.  What comes of it is told without the
loop: every name that is given stands in it once, and the names stand in the
order in which they were given first.  No other list of names is like that, so
nothing of the projection before can show, and giving a projection to a query
that has it changes nothing.

## Main Definitions

* `Query.KeepsFirst`: of the names that are given, each is kept where it comes
  first.
* `Query.ReportsChange`: an edit of the projection answers whether it changed it.

## Main Statements

* `Query.KeepsFirst.select`, `Query.keepsFirst_project`: one more field that is
  given, and all of them.
* `Query.KeepsFirst.unique`: the names that are given leave no choice.
* `Query.fields_project`: what is kept, computed.
* `Query.project_fields_self`: a projection without repeats, given once more.
* `Query.reportsChange_select`, `Query.reportsChange_deselect`: what selecting and
  deselecting answer.
* `Query.projection_isOrderedSet`: replacing a projection, and selecting a field
  and deselecting it again.

## Design Notes

Places are counted in the list that is given, not in the projection.  So the
place of a name does not move while more names are given, and the order that is
kept after one name is kept after the next.
-/

namespace EntityQuery

namespace Query

variable {q : Query} {fields given kept other : List String} {field : String}

/-- Of the names that are given, each is kept once, and they are in the order of their first
places among those that are given. -/
structure KeepsFirst (given kept : List String) : Prop where
  nodup : kept.Nodup
  mem_iff : ∀ field, field ∈ kept ↔ field ∈ given
  ordered : kept.Pairwise fun a b => given.idxOf a < given.idxOf b

/-- An edit of the projection answers whether it changed it, and it changes nothing else. -/
structure ReportsChange (q : Query) (edited : Bool × Query) : Prop where
  changed : edited.1 = true ↔ edited.2.fields ≠ q.fields
  rest : { edited.2 with fields := q.fields } = q

/-! ## One field -/

theorem addField_of_mem (there : field ∈ fields) : addField fields field = fields :=
  if_pos (List.contains_iff_mem.mpr there)

theorem addField_of_notMem (absent : field ∉ fields) :
    addField fields field = fields ++ [field] :=
  if_neg (mt List.contains_iff_mem.mp absent)

@[simp] theorem mem_addField {name : String} :
    name ∈ addField fields field ↔ name ∈ fields ∨ name = field := by
  by_cases there : field ∈ fields
  · rw [addField_of_mem there]
    exact (or_iff_left_of_imp fun same => same ▸ there).symm
  · rw [addField_of_notMem there, List.mem_append, List.mem_singleton]

theorem nodup_addField (distinct : fields.Nodup) (field : String) :
    (addField fields field).Nodup := by
  by_cases there : field ∈ fields
  · rw [addField_of_mem there]
    exact distinct
  · rw [addField_of_notMem there, List.nodup_append]
    refine ⟨distinct, List.pairwise_singleton _ _, ?_⟩
    rintro x mem y single rfl
    rw [List.mem_singleton.mp single] at mem
    exact there mem

theorem fields_deselect_eq_iff : (q.deselect field).2.fields = q.fields ↔ field ∉ q.fields := by
  change q.fields.filter (· ≠ field) = q.fields ↔ field ∉ q.fields
  rw [List.filter_eq_self]
  simp only [decide_eq_true_eq, ne_eq]
  exact ⟨fun others mem => others field mem rfl, fun absent _ mem same => absent (same ▸ mem)⟩

theorem reportsChange_select (field : String) (q : Query) : q.ReportsChange (q.select field) := by
  refine ⟨?_, rfl⟩
  change (!q.fields.contains field) = true ↔ addField q.fields field ≠ q.fields
  by_cases there : field ∈ q.fields
  · simp [there, addField_of_mem there]
  · simp [there, addField_of_notMem there]

theorem reportsChange_deselect (field : String) (q : Query) :
    q.ReportsChange (q.deselect field) := by
  refine ⟨?_, rfl⟩
  rw [ne_eq, fields_deselect_eq_iff, not_not]
  exact List.contains_iff_mem

/-- A field that is deselected is gone, whether it was there before or has just been selected. -/
theorem deselect_select (field : String) (q : Query) :
    ((q.select field).2.deselect field).2 = (q.deselect field).2 := by
  have same : (addField q.fields field).filter (· ≠ field) = q.fields.filter (· ≠ field) := by
    by_cases there : field ∈ q.fields
    · rw [addField_of_mem there]
    · rw [addField_of_notMem there, List.filter_append]
      simp
  exact congrArg (fun fields => { q with fields }) same

/-! ## All fields that are given -/

/-- To give one more field is to select it after the others. -/
theorem project_concat (given : List String) (field : String) (q : Query) :
    q.project (given ++ [field]) = ((q.project given).select field).2 := by
  rw [project, List.foldl_append]
  rfl

namespace KeepsFirst

theorem nil : KeepsFirst [] [] :=
  ⟨List.nodup_nil, fun _ => Iff.rfl, List.Pairwise.nil⟩

/-- One more field is given and selected. -/
theorem select (keeps : KeepsFirst given q.fields) (field : String) :
    KeepsFirst (given ++ [field]) (q.select field).2.fields := by
  -- The first place of a name that was given does not move, and a new name comes behind all.
  have before : q.fields.Pairwise fun a b =>
      (given ++ [field]).idxOf a < (given ++ [field]).idxOf b := by
    refine keeps.ordered.imp_of_mem fun mem mem' earlier => ?_
    rwa [List.idxOf_append_of_mem ((keeps.mem_iff _).mp mem),
      List.idxOf_append_of_mem ((keeps.mem_iff _).mp mem')]
  change KeepsFirst _ (addField q.fields field)
  refine ⟨nodup_addField keeps.nodup field, fun name => ?_, ?_⟩
  · rw [mem_addField, List.mem_append, List.mem_singleton, keeps.mem_iff]
  · by_cases there : field ∈ q.fields
    · rw [addField_of_mem there]
      exact before
    · rw [addField_of_notMem there]
      refine List.pairwise_append.mpr
        ⟨before, List.pairwise_singleton _ _, fun name mem last single => ?_⟩
      obtain rfl := List.mem_singleton.mp single
      have mem_given : name ∈ given := (keeps.mem_iff name).mp mem
      have new : last ∉ given := mt (keeps.mem_iff last).mpr there
      rw [List.idxOf_append_of_mem mem_given, List.idxOf_append_of_notMem new]
      exact Nat.lt_add_right _ (List.idxOf_lt_length_of_mem mem_given)

/-- Names without repeats are all kept where they are. -/
theorem self (distinct : fields.Nodup) : KeepsFirst fields fields := by
  refine ⟨distinct, fun _ => Iff.rfl, ?_⟩
  refine List.pairwise_iff_getElem.mpr fun i j inside inside' earlier => ?_
  rwa [distinct.idxOf_getElem, distinct.idxOf_getElem]

/-- The names that are given leave no choice of what is kept. -/
theorem unique (keeps : KeepsFirst given kept) (keeps' : KeepsFirst given other) :
    kept = other := by
  have same : kept.Perm other := (List.perm_ext_iff_of_nodup keeps.nodup keeps'.nodup).mpr
    fun field => (keeps.mem_iff field).trans (keeps'.mem_iff field).symm
  exact same.eq_of_pairwise (fun _ _ _ _ earlier later => absurd later (Nat.lt_asymm earlier))
    keeps.ordered keeps'.ordered

end KeepsFirst

/-- Of the fields by which a projection is replaced, the first of each stays. -/
theorem keepsFirst_project (given : List String) (q : Query) :
    KeepsFirst given (q.project given).fields := by
  induction given using List.reverseRecOn with
  | nil => exact .nil
  | append_singleton given field ih =>
    rw [project_concat]
    exact ih.select field

example : (initial.project ["b", "a", "b"]).fields = ["b", "a"] := by decide

/-- What is kept of the fields that are given can be computed without the query. -/
theorem fields_project (given : List String) (q : Query) :
    (q.project given).fields = given.eraseDups := by
  induction given using List.reverseRecOn with
  | nil => rfl
  | append_singleton given field ih =>
    rw [project_concat, List.eraseDups_append]
    change addField (q.project given).fields field = _
    rw [ih]
    by_cases repeated : field ∈ given
    · have none : [field].removeAll given = [] := by simpa [List.removeAll] using repeated
      rw [addField_of_mem (List.mem_eraseDups.mpr repeated), none, List.eraseDups_nil,
        List.append_nil]
    · have one : [field].removeAll given = [field] := by simpa [List.removeAll] using repeated
      rw [addField_of_notMem (mt List.mem_eraseDups.mp repeated), one, List.eraseDups_cons,
        List.filter_nil, List.eraseDups_nil]

/-- A projection without repeats that is given to its own query changes nothing. -/
theorem project_fields_self (distinct : q.fields.Nodup) : q.project q.fields = q := by
  have same : (q.project q.fields).fields = q.fields :=
    (keepsFirst_project q.fields q).unique (.self distinct)
  change { q with fields := (q.project q.fields).fields } = q
  rw [same]

/-- The projection is edited as an ordered set.  Replacing it keeps of the names that are given each
once, in the order in which they come first, whatever query it is replaced in.  Nothing but the
projection is replaced, and to give the new projection once more changes nothing.  Selecting a field
and then deselecting it leads through a projection with the field to one without it, which is the
one at the start exactly if the field was absent there; both answer whether they changed the
projection, and change nothing else. -/
theorem projection_isOrderedSet (q : Query) :
    (∀ given,
      KeepsFirst given (q.project given).fields ∧
      (∀ p : Query, (p.project given).fields = (q.project given).fields) ∧
      { q.project given with fields := q.fields } = q ∧
      (q.project given).project (q.project given).fields = q.project given) ∧
    ∀ field,
      let selected := q.select field
      let deselected := selected.2.deselect field
      q.ReportsChange selected ∧ field ∈ selected.2.fields ∧
      selected.2.ReportsChange deselected ∧ field ∉ deselected.2.fields ∧
      (deselected.2.fields = q.fields ↔ field ∉ q.fields) := by
  constructor
  · intro given
    have keeps := keepsFirst_project given q
    exact ⟨keeps, fun p => (keepsFirst_project given p).unique keeps, rfl,
      project_fields_self keeps.nodup⟩
  · intro field selected deselected
    have selects : field ∈ selected.2.fields := mem_addField.mpr (.inr rfl)
    have deselects : field ∉ deselected.2.fields :=
      fun mem => of_decide_eq_true (List.mem_filter.mp mem).2 rfl
    have restores : deselected.2.fields = q.fields ↔ field ∉ q.fields := by
      rw [deselect_select]
      exact fields_deselect_eq_iff
    exact ⟨reportsChange_select field q, selects, reportsChange_deselect field selected.2,
      deselects, restores⟩

end Query

end EntityQuery
