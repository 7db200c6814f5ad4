import EntityQuery.Proofs.Query.Repeats
import EntityQuery.Proofs.Query.Start

/-!
# The scope of a query

The fields of a projection and of the sorts belong to the entity of the query.
Switching to another entity replaces the projection and drops the sorts, and a
new sort is on a field of the entity of that moment.  So a query stays within
the scope of its entity for as long as nobody names a field of their own choice.

## Main Definitions

* `Query.Scoped`: a query whose fields are those of its entity.
* `Edit.StaysInScope`, `Query.Change.StaysInScope`: what names no field, or one
  that is there already, under a catalog.

## Main Statements

* `Query.Scoped.edit`, `Query.Scoped.preset`: one edit, and one preset under the
  standard catalog.
* `Query.scoped_after`: every query that comes about by such changes.

## Design Notes

The entity of a sort is never recorded.  What keeps a sort in scope is that it
does not outlive the entity for which it was added.
-/

namespace EntityQuery

namespace SortOrder

variable {o after : SortOrder}

/-- The fields that are sorted by, in order. -/
def fields (o : SortOrder) : List String :=
  o.keys.map (·.field)

@[simp] theorem fields_appendField (field : String) (o : SortOrder) :
    (o.appendField field).fields = o.fields ++ [field] := by
  simp [appendField, append, fields]

/-- A change that keeps the field of a key keeps the fields of the order. -/
theorem fields_modify {index : Nat} {f : SortKey → SortKey}
    (modified : o.modify index f = .ok after) (same : ∀ key, (f key).field = key.field) :
    after.fields = o.fields := by
  rw [modify] at modified
  split at modified
  · cases modified
    refine List.ext_getElem? fun i => ?_
    simp only [fields, List.getElem?_map, List.getElem?_modify]
    cases o.keys[i]? with
    | none => rfl
    | some key => by_cases here : index = i <;> simp [here, same]
  · cases modified

/-- Erasing brings in no field. -/
theorem mem_fields_of_erase {index : Nat} {key : SortKey}
    (erased : o.erase index = .ok (key, after)) {field : String} (mem : field ∈ after.fields) :
    field ∈ o.fields := by
  rw [erase] at erased
  split at erased
  · cases erased
    obtain ⟨kept, left, rfl⟩ := List.mem_map.mp mem
    exact List.mem_map_of_mem (List.mem_of_mem_eraseIdx left)
  · cases erased

end SortOrder

namespace Catalog

variable {c : Catalog} {entity : String}

/-- A field on which an entity may be sorted unasked: one of its own, or the key field when it has
none. -/
def Offers (c : Catalog) (entity field : String) : Prop :=
  field ∈ c.fields entity ∨ c.fields entity = [] ∧ field = keyField

theorem offers_sortField (c : Catalog) (entity : String) :
    c.Offers entity (c.sortField entity) := by
  rw [Offers, sortField]
  cases fields : c.fields entity with
  | nil => exact .inr ⟨rfl, rfl⟩
  | cons first rest => exact .inl List.mem_cons_self

end Catalog

/-- An edit that names no field for the projection or the sorts.  Presets do, and they name those
of the standard catalog. -/
def Edit.StaysInScope (catalog : Catalog) : Edit → Prop
  | .project _ => False
  | .select _ => False
  | .addSortOn _ => False
  | .sortField _ _ => False
  | .preset _ => catalog = .standard
  | _ => True

namespace Query

/-- A change that names no field for the projection or the sorts, and consults the given catalog. -/
def Change.StaysInScope (catalog : Catalog) : Change → Prop
  | .edit consulted e => consulted = catalog ∧ e.StaysInScope catalog
  | .filters _ => True
  | .sorts _ => False
  | .land _ _ => True

/-- The projected fields are fields of the entity, and so are those that are sorted by, as far as
the entity has any. -/
structure Scoped (catalog : Catalog) (q : Query) : Prop where
  projection : ∀ field ∈ q.fields, field ∈ catalog.fields q.entity
  sorts : ∀ field ∈ q.sorts.fields, catalog.Offers q.entity field

namespace Scoped

variable {catalog : Catalog} {q : Query}

/-- The first fields of an entity, and no sort. -/
theorem of_projection (fields : q.fields = catalog.projection q.entity) (sorts : q.sorts = .empty) :
    Scoped catalog q := by
  constructor
  · rw [fields]
    exact fun field mem => (catalog.projection_isPrefix q.entity).subset mem
  · rw [sorts]
    exact nofun

/-- A query that names fields itself is in scope if its entity has them. -/
theorem of_eq (entity : String) (fields sorts : List String) (entity_eq : q.entity = entity)
    (fields_eq : q.fields = fields) (sorts_eq : q.sorts.fields = sorts)
    (own : ∀ field ∈ fields ++ sorts, field ∈ catalog.fields entity) : Scoped catalog q := by
  subst entity_eq fields_eq sorts_eq
  exact ⟨fun field mem => own field (List.mem_append_left _ mem),
    fun field mem => .inl (own field (List.mem_append_right _ mem))⟩

/-- Every preset is in the scope of the standard catalog, also one that is refused. -/
theorem preset (p : Preset) (q : Query) : Scoped .standard (p.apply q).2 := by
  cases p with
  | nameLike => exact of_eq "Employee" ["id", "name", "salary"] [] rfl rfl rfl (by decide)
  | salaryRange =>
    exact of_eq "Employee" ["id", "name", "salary"] ["salary"] rfl rfl rfl (by decide)
  | distinctDepartments =>
    exact of_eq "Employee" ["department.name"] ["department.name"] rfl rfl rfl (by decide)
  | salesSubquery =>
    rw [Preset.apply_salesSubquery]
    split
    · exact of_eq "Employee" ["id", "name", "department.name"] [] rfl rfl rfl (by decide)
    · exact of_eq "Employee" ["id", "name", "department.name"] ["name"] rfl rfl rfl (by decide)

/-- What keeps the entity, and brings in no field, stays in scope. -/
theorem of_subset {after : Query} (inScope : Scoped catalog q) (entity : after.entity = q.entity)
    (fields : after.fields ⊆ q.fields) (sorts : after.sorts.fields ⊆ q.sorts.fields) :
    Scoped catalog after := by
  constructor
  · rw [entity]
    exact fun field mem => inScope.projection field (fields mem)
  · rw [entity]
    exact fun field mem => inScope.sorts field (sorts mem)

/-- An edit of the sorts stays in scope if the sorts that it leaves bring in no field. -/
theorem ofSorts (inScope : Scoped catalog q) {edited : Except SortError (Edit.Answer × SortOrder)}
    (kept : ∀ answer o, edited = .ok (answer, o) → o.fields ⊆ q.sorts.fields) :
    Scoped catalog (Edit.ofSorts q edited).2 := by
  cases edited with
  | error e => exact inScope
  | ok edited => exact inScope.of_subset rfl (List.Subset.refl _) (kept edited.1 edited.2 rfl)

theorem ofFilters (inScope : Scoped catalog q)
    (edited : Except CriteriaError (Edit.Answer × BoundedCriteria)) :
    Scoped catalog (Edit.ofFilters q edited).2 := by
  obtain ⟨filters, after⟩ := Edit.exists_ofFilters_snd_eq q edited
  rw [after]
  exact ⟨inScope.projection, inScope.sorts⟩

/-- A new sort is on a field of the entity of that moment. -/
theorem addSort (inScope : Scoped catalog q) : Scoped catalog (q.addSort catalog).2 := by
  refine ⟨inScope.projection, fun field mem => ?_⟩
  change field ∈ (q.sorts.appendField _).fields at mem
  rw [SortOrder.fields_appendField, List.mem_append, List.mem_singleton] at mem
  rcases mem with mem | rfl
  · exact inScope.sorts field mem
  · exact catalog.offers_sortField q.entity

/-- An edit that names no field stays in scope. -/
theorem edit (inScope : Scoped catalog q) {e : Edit} (stays : e.StaysInScope catalog) :
    Scoped catalog (e.apply catalog q).2 := by
  cases e with
  | project | select | addSortOn | sortField => cases stays
  | entity name => exact of_projection rfl rfl
  | deselect field =>
    exact inScope.of_subset rfl (fun _ mem => (List.mem_filter.mp mem).1) (List.Subset.refl _)
  | addSort => exact inScope.addSort
  | criterion | form | eraseCriterion | eraseWireName | clearCriteria => exact inScope.ofFilters _
  | sortDirection index direction =>
    refine inScope.ofSorts fun answer o accepted => ?_
    obtain ⟨_, modified, same⟩ := Except.map_eq_ok_iff.mp accepted
    cases same
    rw [SortOrder.fields_modify modified fun _ => rfl]
    exact List.Subset.refl _
  | eraseSort index =>
    refine inScope.ofSorts fun answer o accepted => ?_
    obtain ⟨_, erased, same⟩ := Except.map_eq_ok_iff.mp accepted
    cases same
    exact fun field mem => SortOrder.mem_fields_of_erase erased mem
  | clearSorts =>
    refine inScope.ofSorts fun answer o accepted => ?_
    cases accepted
    exact List.nil_subset _
  | preset p =>
    subst stays
    exact preset p q
  | previousPage =>
    simp only [Edit.apply, Query.previousPage]
    split <;> exact ⟨inScope.projection, inScope.sorts⟩
  | size n =>
    simp only [Edit.apply, Query.resize]
    by_cases zero : n = 0
    · rw [if_pos zero]
      exact inScope
    · rw [if_neg zero]
      exact ⟨inScope.projection, inScope.sorts⟩
  -- What is left touches neither the entity nor the projection nor the sorts.
  | _ => exact ⟨inScope.projection, inScope.sorts⟩

/-- A change that names no field stays in scope. -/
theorem change (inScope : Scoped catalog q) {c : Change} (stays : c.StaysInScope catalog) :
    Scoped catalog (c.apply q) := by
  cases c with
  | edit consulted e =>
    obtain ⟨rfl, stays⟩ := stays
    exact inScope.edit stays
  | filters b => exact ⟨inScope.projection, inScope.sorts⟩
  | sorts o => cases stays
  | land kind outcome =>
    rw [Change.apply, land_snd]
    split <;> exact ⟨inScope.projection, inScope.sorts⟩

/-- So does a history of such changes. -/
theorem after (inScope : Scoped catalog q) (changes : List Change)
    (stay : ∀ change ∈ changes, change.StaysInScope catalog) :
    Scoped catalog (q.after changes) := by
  induction changes generalizing q with
  | nil => exact inScope
  | cons first later ih =>
    rw [List.forall_mem_cons] at stay
    exact ih (inScope.change stay.1) stay.2

end Scoped

/-- From a new session on, and through every history of changes that name no field, the projection
and the sorts belong to the entity of the moment.  If the catalog has fields for it, each field of
the projection and each that is sorted by is one of these.  If it is unknown or has no fields,
nothing is projected, and every sort is on the key field. -/
theorem scoped_after (settings : Settings) (catalog : Catalog) (changes : List Change)
    (stay : ∀ change ∈ changes, change.StaysInScope catalog) :
    let q := (ofSettings settings catalog).after changes
    (catalog.contains q.entity → catalog.fields q.entity ≠ [] →
      (∀ field ∈ q.fields, field ∈ catalog.fields q.entity) ∧
        ∀ key ∈ q.sorts.keys, key.field ∈ catalog.fields q.entity) ∧
      (¬catalog.contains q.entity ∨ catalog.fields q.entity = [] →
        q.fields = [] ∧ ∀ key ∈ q.sorts.keys, key.field = "id") := by
  intro q
  have start : Scoped catalog (ofSettings settings catalog) := .of_projection rfl rfl
  have inScope : Scoped catalog q := start.after changes stay
  have offered : ∀ key ∈ q.sorts.keys, catalog.Offers q.entity key.field :=
    fun key mem => inScope.sorts key.field (List.mem_map_of_mem mem)
  constructor
  · intro _ some_field
    exact ⟨inScope.projection, fun key mem =>
      (offered key mem).resolve_right fun none => some_field none.1⟩
  · intro without
    have none : catalog.fields q.entity = [] :=
      without.elim Catalog.fields_of_not_contains id
    refine ⟨List.eq_nil_iff_forall_not_mem.mpr fun field mem => ?_, fun key mem => ?_⟩
    · have own := inScope.projection field mem
      rw [none] at own
      cases own
    · rcases offered key mem with own | ⟨-, same⟩
      · rw [none] at own
        cases own
      · exact same

/-- A preset and an edited sort, then an entity that nobody knows with a sort of its own. -/
theorem scoped_after_of_unknown_entity :
    let known : List Change :=
      [.edit .standard (.preset .salaryRange), .edit .standard (.sortDirection 0 .asc),
        .edit .standard .addSort, .edit .standard (.deselect "name"),
        .land .exports (.ok (.object [("file", .string "out.csv")]))]
    let unknown := known ++ [.edit .standard (.entity "Invoice"), .edit .standard .addSort]
    let q := (ofSettings {} .standard).after known
    let q' := (ofSettings {} .standard).after unknown
    (∀ change ∈ unknown, change.StaysInScope .standard) ∧
      q.sorts.fields = ["salary", "id"] ∧ q.fields = ["id", "salary"] ∧
      (∀ field ∈ q.fields, field ∈ Catalog.standard.fields "Employee") ∧
      (∀ key ∈ q.sorts.keys, key.field ∈ Catalog.standard.fields "Employee") ∧
      q'.fields = [] ∧ q'.sorts.length = 1 ∧ ∀ key ∈ q'.sorts.keys, key.field = "id" := by
  intro known unknown q q'
  have stay : ∀ change ∈ unknown, change.StaysInScope .standard := by
    simp [unknown, known, Change.StaysInScope, Edit.StaysInScope]
  have stay_known : ∀ change ∈ known, change.StaysInScope .standard :=
    fun change mem => stay change (List.mem_append_left _ mem)
  obtain ⟨own, -⟩ := scoped_after {} .standard known stay_known
  obtain ⟨-, none⟩ := scoped_after {} .standard unknown stay
  have employee := own (by decide) (by decide)
  have invoice := none (.inl (by decide))
  exact ⟨stay, rfl, rfl, employee.1, employee.2, invoice.1, rfl, invoice.2⟩

end Query

end EntityQuery
