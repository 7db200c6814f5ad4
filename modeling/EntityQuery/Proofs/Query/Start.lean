import EntityQuery.Proofs.Settings
import EntityQuery.Query.Basic

/-!
# Where a session starts

The query of a new session names an entity of the catalog in force and projects
the first of its fields.  Checking the settings makes sure that these are there,
unless the settings bring a catalog without any entity: that one passes, and the
session starts on an entity that it does not know.

## Main Statements

* `Catalog.fields_ne_nil`: in settings that pass, an entity that is known has
  fields.
* `Query.contains_startEntity_iff`: the entity of the start is known unless no
  entity is.
* `Query.ofSettings_starts`: the query of a new session.
-/

namespace EntityQuery

namespace Catalog

variable {c : Catalog} {entity : String}

/-- The fields of a known entity are those of one of its entries. -/
theorem exists_mem_entries_of_contains (known : c.contains entity) :
    ∃ entry ∈ c.entries, entry.1 = entity ∧ c.fields entity = entry.2 := by
  obtain ⟨fields, found⟩ := Option.isSome_iff_exists.mp known
  obtain ⟨earlier, later, split, -⟩ := List.lookup_eq_some_iff.mp found
  refine ⟨(entity, fields), ?_, rfl, ?_⟩
  · rw [split]
    exact List.mem_append_right _ List.mem_cons_self
  · rw [Catalog.fields, found, Option.getD_some]

theorem contains_iff_mem_entities : c.contains entity ↔ entity ∈ c.entities := by
  rw [contains, List.lookup_isSome_iff, entities, List.mem_map]
  simp only [beq_iff_eq, @eq_comm _ entity]

theorem fields_of_not_contains (unknown : ¬c.contains entity) : c.fields entity = [] := by
  rw [contains, Option.not_isSome_iff_eq_none] at unknown
  rw [fields, unknown, Option.getD_none]

/-- Where every entry has fields, so has every known entity. -/
theorem fields_ne_nil (filled : ∀ entry ∈ c.entries, entry.2 ≠ []) (known : c.contains entity) :
    c.fields entity ≠ [] := by
  obtain ⟨entry, mem, -, same⟩ := exists_mem_entries_of_contains known
  rw [same]
  exact filled entry mem

theorem projection_eq_nil_iff : c.projection entity = [] ↔ c.fields entity = [] := by
  rw [projection, List.take_eq_nil_iff]
  exact or_iff_right (by decide)

theorem projection_isPrefix (entity : String) (c : Catalog) :
    c.projection entity <+: c.fields entity :=
  List.take_prefix _ _

theorem length_projection_le (entity : String) (c : Catalog) :
    (c.projection entity).length ≤ projectionLength :=
  List.length_take_le _ _

end Catalog

/-- Of the catalogs of settings that pass, every entry has fields. -/
theorem Settings.filled_of_check {c : Settings} (checked : c.check = .ok ()) :
    ∀ entry ∈ c.catalogInForce.entries, entry.2 ≠ [] := by
  obtain ⟨-, -, -, -, -, filled⟩ := check_eq_ok_iff.mp checked
  rw [catalogInForce]
  cases own : c.catalog with
  | none => decide
  | some entries => simpa only [own, Option.getD_some] using filled

/-- Only settings that bring a catalog without entities leave the catalog in force empty. -/
theorem Settings.entries_eq_nil_iff {c : Settings} :
    c.catalogInForce.entries = [] ↔ c.catalog = some [] := by
  rw [catalogInForce]
  cases c.catalog with
  | none => simp [Catalog.standard]
  | some entries => simp

namespace Query

/-- The entity on which a session starts is known, unless no entity is. -/
theorem contains_startEntity_iff {catalog : Catalog} :
    catalog.contains (startEntity catalog) ↔ catalog.entries ≠ [] := by
  rw [startEntity]
  split
  · rename_i known
    rw [iff_true_left known]
    obtain ⟨entry, mem, -, -⟩ := Catalog.exists_mem_entries_of_contains known
    exact List.ne_nil_of_mem mem
  · rename_i unknown
    rw [Catalog.contains_iff_mem_entities, Catalog.entities]
    cases entries : catalog.entries with
    | nil => simp
    | cons entry rest => simp

theorem startEntity_of_entries_eq_nil {catalog : Catalog} (empty : catalog.entries = []) :
    startEntity catalog = initial.entity := by
  rw [startEntity, Catalog.entities, empty]
  split <;> rfl

/-- A session of settings that pass starts with a projection of at most three fields, the first of
its entity, and with the page size and the bound on nesting that are set, neither of them zero.  It
starts on an entity of the catalog, with at least one field, exactly if that has any entity. -/
theorem ofSettings_starts {settings : Settings} (checked : settings.check = .ok ()) :
    let catalog := settings.catalogInForce
    let q := ofSettings settings catalog
    (settings.catalog ≠ some [] → catalog.contains q.entity ∧ q.fields ≠ []) ∧
      (settings.catalog = some [] →
        q.entity = "Employee" ∧ ¬catalog.contains q.entity ∧ q.fields = []) ∧
      q.fields <+: catalog.fields q.entity ∧ q.fields.length ≤ 3 ∧
      q.size = settings.pageSize ∧ 1 ≤ q.size ∧
      q.filters.maxDepth = settings.maxSubqueryDepth ∧ 1 ≤ q.filters.maxDepth := by
  intro catalog q
  obtain ⟨-, size, -, depth, -⟩ := Settings.check_eq_ok_iff.mp checked
  have known : catalog.contains q.entity ↔ settings.catalog ≠ some [] :=
    contains_startEntity_iff.trans (not_congr Settings.entries_eq_nil_iff)
  refine ⟨fun some_entity => ?_, fun no_entity => ?_, catalog.projection_isPrefix q.entity,
    catalog.length_projection_le q.entity, rfl, ?_, rfl, Nat.one_le_iff_ne_zero.mpr depth⟩
  · have contained := known.mpr some_entity
    have fields := Catalog.fields_ne_nil (Settings.filled_of_check checked) contained
    exact ⟨contained, fun none => fields (Catalog.projection_eq_nil_iff.mp none)⟩
  · have unknown : ¬catalog.contains q.entity := fun contained => known.mp contained no_entity
    have fields := Catalog.fields_of_not_contains unknown
    exact ⟨startEntity_of_entries_eq_nil (Settings.entries_eq_nil_iff.mpr no_entity), unknown,
      Catalog.projection_eq_nil_iff.mpr fields⟩
  · change 1 ≤ settings.pageSize
    grind

/-- A catalog without `Employee`, and with fewer fields than a projection may have. -/
theorem ofSettings_starts_of_own_catalog :
    let settings : Settings :=
      { catalog := some [("Invoice", ["number", "total"]), ("Order", ["ref"])] }
    let q := ofSettings settings settings.catalogInForce
    settings.check = .ok () ∧ settings.catalog ≠ some [] ∧
      settings.catalogInForce.contains q.entity ∧ q.fields ≠ [] ∧ q.size = 10 := by
  intro settings q
  have checked : settings.check = .ok () := Settings.check_own_catalog (by decide)
  have some_entity : settings.catalog ≠ some [] := by decide
  obtain ⟨starts, -, -, -, size, -⟩ := ofSettings_starts checked
  exact ⟨checked, some_entity, (starts some_entity).1, (starts some_entity).2, size⟩

/-- Settings that bring a catalog without entities pass, and the session starts on an entity that
is not known, with nothing projected. -/
theorem not_contains_of_no_entities :
    let settings : Settings := { catalog := some [] }
    let q := ofSettings settings settings.catalogInForce
    settings.check = .ok () ∧ ¬settings.catalogInForce.contains q.entity ∧ q.fields = [] := by
  exact ⟨Settings.check_own_catalog nofun, by decide, rfl⟩

end Query

end EntityQuery
