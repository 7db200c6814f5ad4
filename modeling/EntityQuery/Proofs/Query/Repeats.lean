import EntityQuery.Proofs.Query.Frame
import EntityQuery.Proofs.Query.Preset
import EntityQuery.Proofs.Query.Projection
import EntityQuery.Proofs.Settings
import EntityQuery.Query.Request
import Mathlib.Data.List.Induction

/-!
# Repeats in a projection

A projection is edited as an ordered set: no field is added that is there
already.  But whole lists of fields are copied into it, too, from the catalog
and from a request that is restored, and nobody looks for repeats in these.  So
a field stands twice in a projection exactly if it does in a list that is copied.

## Main Definitions

* `Query.Change`, `Query.after`: what may happen to a query, and the query after
  it has happened.
* `Query.Origin`: how a query comes about.
* `Query.Change.copied?`, `Query.Origin.copied?`: the list of fields that is
  copied.

## Main Statements

* `Query.Change.nodup_fields_apply`: every other change keeps a projection
  without repeats.
* `Query.Origin.nodup_fields_iff`: which histories keep the projection without
  repeats throughout.
* `Query.Origin.repeats_of_catalog_or_request`: settings that pass and a request
  that is read, each with a field twice.
-/

namespace EntityQuery

namespace Query

/-- One thing that may happen to a query. -/
inductive Change where
  /-- An edit, with the catalog that it consults. -/
  | edit (catalog : Catalog) (e : Edit)
  /-- Replaces the criteria as a whole. -/
  | filters (b : BoundedCriteria)
  /-- Replaces the sorts as a whole. -/
  | sorts (o : SortOrder)
  /-- The answer to a request lands. -/
  | land (kind : RequestKind) (outcome : Outcome)

namespace Change

/-- The query after a change. -/
def apply (change : Change) (q : Query) : Query :=
  match change with
  | .edit catalog e => (e.apply catalog q).2
  | .filters b => { q with filters := b }
  | .sorts o => { q with sorts := o }
  | .land kind outcome => (q.land kind outcome).2

/-- The list of fields that a change copies into the projection, if it copies one. -/
def copied? : Change → Option (List String)
  | .edit catalog (.entity name) => some (catalog.projection name)
  | _ => none

end Change

/-- The query after a history of changes. -/
def after (q : Query) : List Change → Query
  | [] => q
  | change :: later => (change.apply q).after later

theorem after_concat (q : Query) (changes : List Change) (change : Change) :
    q.after (changes ++ [change]) = change.apply (q.after changes) := by
  induction changes generalizing q with
  | nil => rfl
  | cons first later ih => exact ih (first.apply q)

/-- How a query comes about. -/
inductive Origin where
  /-- The query where nothing is set. -/
  | initial
  /-- The query of a new session. -/
  | fresh (settings : Settings) (catalog : Catalog)
  /-- The query that a request was made for. -/
  | restored (r : PageRequest)

namespace Origin

/-- The query that comes about. -/
def query : Origin → Query
  | .initial => Query.initial
  | .fresh settings catalog => ofSettings settings catalog
  | .restored r => r.toQuery

/-- The list of fields that is copied into the projection of the query, if there is one. -/
def copied? : Origin → Option (List String)
  | .initial => none
  | .fresh _ catalog => some (catalog.projection (startEntity catalog))
  | .restored r => some r.fields

end Origin

/-! ## Changes -/

variable {q : Query} {fields : List String}

/-- Every preset replaces the projection, also one that is refused. -/
theorem nodup_fields_preset (p : Preset) (q : Query) : (p.apply q).2.fields.Nodup := by
  obtain ⟨_, fields, _, _, _, _, after, -⟩ := p.exists_apply_snd_eq q
  rw [after]
  exact (keepsFirst_project fields q).nodup

namespace Change

/-- What a change copies is the projection from then on. -/
theorem fields_apply_of_copied {change : Change} (copies : change.copied? = some fields) :
    (change.apply q).fields = fields := by
  unfold copied? at copies
  split at copies
  · exact Option.some.inj copies
  · cases copies

/-- A change that copies nothing keeps a projection without repeats. -/
theorem nodup_fields_apply (distinct : q.fields.Nodup) {change : Change}
    (plain : change.copied? = none) : (change.apply q).fields.Nodup := by
  cases change with
  | filters | sorts => exact distinct
  | land kind outcome =>
    rw [apply, land_snd]
    split <;> exact distinct
  | edit catalog e =>
    have kept := e.apply_of_isPlain catalog q
    cases e with
    | entity name => cases plain
    | project given => exact (keepsFirst_project given q).nodup
    | select field => exact nodup_addField distinct field
    | deselect field => exact distinct.filter _
    | preset p => exact nodup_fields_preset p q
    | keepHandle => exact distinct
    | _ =>
      obtain ⟨_, _, _, _, _, _, _, after⟩ := kept trivial
      rw [apply, after]
      exact distinct

end Change

/-! ## Histories -/

/-- A projection stays without repeats throughout a history exactly if it is without repeats at the
start and so is every list of fields that is copied into it. -/
theorem nodup_fields_after_iff (q : Query) (changes : List Change) :
    (∀ earlier, earlier <+: changes → (q.after earlier).fields.Nodup) ↔
      q.fields.Nodup ∧ ∀ change ∈ changes, ∀ fields ∈ change.copied?, fields.Nodup := by
  constructor
  · intro throughout
    refine ⟨throughout [] List.nil_prefix, fun change mem fields copies => ?_⟩
    obtain ⟨before, later, rfl⟩ := List.append_of_mem mem
    have reached := throughout (before ++ [change]) ⟨later, by simp⟩
    rw [after_concat, Change.fields_apply_of_copied copies] at reached
    exact reached
  · rintro ⟨start, copies⟩ earlier ⟨later, rfl⟩
    induction earlier using List.reverseRecOn generalizing later with
    | nil => exact start
    | append_singleton earlier change ih =>
      rw [after_concat]
      have distinct := ih (change :: later) (by simpa using copies)
      cases copied : change.copied? with
      | none => exact Change.nodup_fields_apply distinct copied
      | some fields =>
        rw [Change.fields_apply_of_copied copied]
        exact copies change (by simp) fields copied

namespace Origin

theorem nodup_fields_query_iff (origin : Origin) :
    origin.query.fields.Nodup ↔ ∀ fields ∈ origin.copied?, fields.Nodup := by
  cases origin with
  | initial => exact iff_of_true (by decide) nofun
  | fresh | restored => simp [query, copied?, ofSettings, PageRequest.toQuery]

/-- However a query has come about, and whatever happens to it, no field ever stands twice in its
projection exactly if none does in a list of fields that is copied: the first fields that the
catalog has for the entity on which a session starts or to which it switches, or the fields of a
request that is restored. -/
theorem nodup_fields_iff (origin : Origin) (changes : List Change) :
    (∀ earlier, earlier <+: changes → (origin.query.after earlier).fields.Nodup) ↔
      (∀ fields ∈ origin.copied?, fields.Nodup) ∧
        ∀ change ∈ changes, ∀ fields ∈ change.copied?, fields.Nodup := by
  rw [nodup_fields_after_iff, nodup_fields_query_iff]

/-- Settings pass whose catalog has a field twice, and a request is read that has a field twice.
Both queries have it twice. -/
theorem repeats_of_catalog_or_request :
    let settings : Settings := { catalog := some [("Order", ["ref", "ref", "total"])] }
    let v : Json := .object [("entity", .string "Order"),
      ("fields", .array [.string "ref", .string "ref"]), ("page", .number (.integer 0)),
      ("size", .number (.integer 10))]
    let r : PageRequest := { entity := "Order", fields := ["ref", "ref"], page := 0, size := 10 }
    settings.check = .ok () ∧ PageRequest.ofJson v = .ok r ∧
      ¬(fresh settings settings.catalogInForce).query.fields.Nodup ∧
      ¬(restored r).query.fields.Nodup :=
  ⟨Settings.check_own_catalog (by decide), rfl, by decide, by decide⟩

end Origin

end Query

end EntityQuery
