import EntityQuery.CommandLine.QueryFlags
import EntityQuery.Proofs.CommandLine.Value
import EntityQuery.Proofs.Query.Run

/-!
# What query flags set

Flags are applied as a run of edits.  If none of them is refused, each flag has
its effect, and what it sets depends on the flag and not on the others: criteria
overwrite each other on the wire from left to right, and sorts line up.

## Main Definitions

* `QueryFlags.Assigns`: the members that the criterion flags stand for, in order.

## Main Statements

* `QueryFlags.assigns_of_forms`: the forms of the flags stand for these members.
* `QueryFlags.exists_of_run_edits`: the query after all flags but the entity.
* `QueryFlags.apply_assigns`: the session after flags that are accepted.

## Design Notes

The previous criteria may be any list.  Setting a criterion drops those of its
wire name, so the object is overwritten even where wire names stood twice.
-/

namespace EntityQuery

namespace CommandLine

/-! ## Members for flags -/

/-- A subquery flag stands for a member: what its text reads as, within the bound. -/
def Assignment.StandsFor (maxDepth : Nat) (a : Assignment) (member : String × Json) : Prop :=
  ∃ v query, Json.parse a.value = .ok v ∧ Subquery.ofJson v maxDepth = .ok query ∧
    member = (a.field ++ "_inSubquery", query.toJson)

namespace QueryFlags

/-- The fields of the criterion flags. -/
def criterionFields (flags : QueryFlags) : List String :=
  flags.equals.map (·.field) ++ flags.like.map (·.field) ++ flags.between.map (·.field) ++
    flags.subquery.map (·.field)

/-- The members that the criterion flags stand for: equalities and patterns as they are typed, ranges
with a number for each bound that is written as one, then subqueries. -/
def Assigns (maxDepth : Nat) (flags : QueryFlags) (assigned : List (String × Json)) : Prop :=
  ∃ subqueries, List.Forall₂ (Assignment.StandsFor maxDepth) flags.subquery subqueries ∧
    assigned =
      flags.equals.map (fun a => (a.field, .string a.value)) ++
        flags.like.map (fun a => (a.field ++ "_like", .string a.value)) ++
        flags.between.map (fun r => (r.field ++ "_between",
          .array [(Scalar.ofTyped r.lower).toJson, (Scalar.ofTyped r.upper).toJson])) ++
        subqueries

variable {flags : QueryFlags} {maxDepth : Nat}

/-- No flag with a field makes a form that is cancelled. -/
theorem not_isCancelled_of_mem_forms (named : ∀ field ∈ flags.criterionFields, field ≠ "")
    {form : CriterionForm} (mem : form ∈ flags.forms) : ¬form.IsCancelled := by
  have typed : (∃ field ∈ flags.criterionFields, form.field? = some field) ∧
      none ∉ form.operands := by
    simp only [forms, List.mem_append, List.mem_map] at mem
    simp only [criterionFields, List.mem_append, List.mem_map]
    rcases mem with ((⟨a, mem, rfl⟩ | ⟨a, mem, rfl⟩) | ⟨r, mem, rfl⟩) | ⟨a, mem, rfl⟩
    · exact ⟨⟨_, .inl (.inl (.inl ⟨a, mem, rfl⟩)), rfl⟩, by simp [CriterionForm.operands]⟩
    · exact ⟨⟨_, .inl (.inl (.inr ⟨a, mem, rfl⟩)), rfl⟩, by simp [CriterionForm.operands]⟩
    · exact ⟨⟨_, .inl (.inr ⟨r, mem, rfl⟩), rfl⟩, by simp [CriterionForm.operands]⟩
    · exact ⟨⟨_, .inr ⟨a, mem, rfl⟩, rfl⟩, by simp [CriterionForm.operands]⟩
  obtain ⟨⟨field, inside, present⟩, whole⟩ := typed
  rintro (missing | empty | missing)
  · rw [present] at missing
    cases missing
  · rw [present] at empty
    exact named field inside (Option.some.inj empty)
  · exact whole missing

/-- The criteria that the forms of flags stand for have the members that the flags stand for. -/
theorem assigns_of_forms {more : List Criterion}
    (reads : List.Forall₂ (fun form c => form.Means c ∧ c.predicate.depth ≤ maxDepth)
      flags.forms more) : flags.Assigns maxDepth (more.map Criterion.member) := by
  -- The forms of the four kinds stand one behind the other, so each kind is told by itself.
  have split {xs ys : List CriterionForm} {zs : List Criterion}
      {R : CriterionForm → Criterion → Prop} (reads : List.Forall₂ R (xs ++ ys) zs) :
      ∃ us vs, zs = us ++ vs ∧ List.Forall₂ R xs us ∧ List.Forall₂ R ys vs := by
    refine ⟨_, _, (List.take_append_drop xs.length zs).symm, ?_, ?_⟩
    · simpa using List.forall₂_take xs.length reads
    · simpa using List.forall₂_drop xs.length reads
  obtain ⟨_, subqueries, rfl, reads, inSubquery⟩ := split reads
  obtain ⟨_, ranges, rfl, reads, between⟩ := split reads
  obtain ⟨equalities, patterns, rfl, equals, like⟩ := split reads
  rw [List.forall₂_map_left_iff] at equals like between inSubquery
  have ofEquals : flags.equals.map (fun a => (a.field, Json.string a.value)) =
      equalities.map Criterion.member := by
    refine map_eq_map_of_corresponds equals fun a _ c _ head => ?_
    cases head.1
    exact Prod.ext (CriterionName.wireName_equals a.field).symm rfl
  have ofLike : flags.like.map (fun a => (a.field ++ "_like", Json.string a.value)) =
      patterns.map Criterion.member := by
    refine map_eq_map_of_corresponds like fun a _ c _ head => ?_
    cases head.1
    rfl
  have ofBetween : flags.between.map (fun r => (r.field ++ "_between",
      Json.array [(Scalar.ofTyped r.lower).toJson, (Scalar.ofTyped r.upper).toJson])) =
        ranges.map Criterion.member := by
    refine map_eq_map_of_corresponds between fun r _ c _ head => ?_
    cases head.1
    rfl
  refine ⟨subqueries.map Criterion.member, ?_, ?_⟩
  · refine List.forall₂_map_right_iff.mpr (inSubquery.imp fun a c head => ?_)
    obtain ⟨means, shallow⟩ := head
    cases means with
    | subquery present parsed read =>
      exact ⟨_, _, parsed, Subquery.ofJson_eq_ok_iff_readFrom.mpr ⟨read, shallow⟩, rfl⟩
  · rw [List.map_append, List.map_append, List.map_append, ofEquals, ofLike, ofBetween]

/-! ## Applying flags -/

variable {catalog : Catalog} {q after : Query} {s : Session}

/-- The query after the flags other than the entity, if they are accepted. -/
theorem exists_of_run_edits (named : ∀ field ∈ flags.criterionFields, field ≠ "")
    (accepted : Edit.run catalog (flags.edits q.sorts.length) q = (.ok (), after)) :
    ∃ more : List Criterion,
      List.Forall₂ (fun form c => form.Means c ∧ c.predicate.depth ≤ q.filters.maxDepth)
        flags.forms more ∧
      after = { q with
        fields := if flags.fields = [] then q.fields else flags.fields.eraseDups
        filters := { q.filters with criteria := q.filters.criteria.setAll more }
        sorts := ⟨q.sorts.keys ++ flags.sort⟩
        sortString := ⟨flags.sortString.getD q.sortString.raw⟩
        page := flags.page.getD q.page
        size := flags.size.getD q.size
        distinct := flags.distinct || q.distinct } := by
  -- Between the parts of the run the query is named, and each part says what it changes of it.
  simp only [edits, Edit.run_append_eq_ok_iff] at accepted
  obtain ⟨q₆, ⟨q₅, ⟨q₄, ⟨q₃, ⟨q₂, ⟨q₁, projected, formed⟩, sorted⟩, ordered⟩, turned⟩, sized⟩,
    distinct⟩ := accepted
  have step₁ := Edit.eq_of_run_project projected
  obtain ⟨more, reads, step₂⟩ :=
    Edit.exists_of_run_forms (fun form mem => not_isCancelled_of_mem_forms named mem) formed
  have step₃ : q₃ = { q₂ with sorts := ⟨q₂.sorts.keys ++ flags.sort⟩ } := by
    have before : q.sorts = q₂.sorts := by rw [step₂, step₁]
    rw [before, sortEdits, Edit.run_sorts] at sorted
    cases sorted
    rfl
  have step₄ : q₄ = { q₃ with sortString := ⟨flags.sortString.getD q₃.sortString.raw⟩ } := by
    refine Edit.eq_of_run_option (fun raw => { q₃ with sortString := ⟨raw⟩ }) rfl ?_ ordered
    rintro raw answer mid ⟨⟩
    rfl
  have step₅ : q₅ = { q₄ with page := flags.page.getD q₄.page } := by
    refine Edit.eq_of_run_option (fun page => { q₄ with page }) rfl ?_ turned
    rintro page answer mid ⟨⟩
    rfl
  have step₆ : q₆ = { q₅ with size := flags.size.getD q₅.size } := by
    refine Edit.eq_of_run_option (fun size => { q₅ with size }) rfl ?_ sized
    intro size answer mid applied
    rw [Edit.apply, Query.resize] at applied
    by_cases zero : size = 0
    · rw [if_pos zero] at applied
      cases applied
    · rw [if_neg zero] at applied
      cases applied
      rfl
  have step₇ : after = { q₆ with distinct := flags.distinct || q₆.distinct } := by
    cases set : flags.distinct with
    | false =>
      rw [set] at distinct
      cases distinct
      rfl
    | true =>
      rw [set] at distinct
      cases distinct
      rfl
  subst step₁
  refine ⟨more, reads, ?_⟩
  rw [step₇, step₆, step₅, step₄, step₃, step₂]

/-- The session on the entity of the flags. -/
theorem session_chooseEntity (flags : QueryFlags) (s : Session) :
    (flags.chooseEntity s).session = { s with query := { s.query with
      entity := flags.entity.getD s.query.entity
      fields := (flags.entity.map s.catalog.projection).getD s.query.fields
      sorts := ⟨if flags.entity = none then s.query.sorts.keys else []⟩ } } := by
  rw [chooseEntity]
  cases flags.entity <;> rfl

/-- Flags that are accepted run without a refusal from the session on their entity. -/
theorem run_of_accepted (accepted : (flags.apply s).answer = .ok ()) :
    let chosen := (flags.chooseEntity s).session
    ∃ after, Edit.run chosen.catalog (flags.edits chosen.query.sorts.length) chosen.query =
        (.ok (), after) ∧
      (flags.apply s).session = { chosen with query := after } := by
  intro chosen
  have applied : (flags.apply s).session = { chosen with
      query := (Edit.run chosen.catalog (flags.edits chosen.query.sorts.length) chosen.query).2 } :=
    rfl
  change (Edit.run chosen.catalog (flags.edits chosen.query.sorts.length) chosen.query).1.mapError _
    = _ at accepted
  rw [applied]
  generalize Edit.run chosen.catalog (flags.edits chosen.query.sorts.length) chosen.query = ran
    at accepted ⊢
  obtain ⟨e | done, after⟩ := ran
  · cases accepted
  · exact ⟨after, rfl, rfl⟩

/-- The session after flags that are accepted.  The criteria that there were are overwritten on the
wire by the members of the flags, from left to right, so that under each name the last is found.
The sorts of the flags stand behind those that there were, unless the entity was given.  The
projection is that of the flags without repeats, or the one of the entity that was given, or the one
that there was.  Everything else is as it is given, or as it was. -/
theorem apply_assigns {flags : QueryFlags} {s : Session}
    (named : ∀ field ∈ flags.criterionFields, field ≠ "")
    (accepted : (flags.apply s).answer = .ok ()) :
    ∃ criteria before assigned,
      (flags.apply s).session = { s with query := { s.query with
        entity := flags.entity.getD s.query.entity
        fields :=
          if flags.fields = [] then (flags.entity.map s.catalog.projection).getD s.query.fields
          else flags.fields.eraseDups
        filters := { s.query.filters with criteria }
        sorts := ⟨(if flags.entity = none then s.query.sorts.keys else []) ++ flags.sort⟩
        sortString := ⟨flags.sortString.getD s.query.sortString.raw⟩
        page := flags.page.getD s.query.page
        size := flags.size.getD s.query.size
        distinct := flags.distinct || s.query.distinct } } ∧
      flags.Assigns s.query.filters.maxDepth assigned ∧
      s.query.filters.criteria.toJson = .object before ∧
      criteria.toJson = .object (Members.overwrite before assigned) ∧
      ∀ name, criteria.toJson.member? name = (assigned.reverse ++ before).lookup name := by
  obtain ⟨after, run, applied⟩ := run_of_accepted accepted
  rw [session_chooseEntity] at run applied
  obtain ⟨more, reads, rfl⟩ := exists_of_run_edits named run
  have written := Criteria.toJson_setAll s.query.filters.criteria more
  refine ⟨_, _, more.map Criterion.member, applied, assigns_of_forms reads,
    Criteria.toJson_eq s.query.filters.criteria, written, fun name => ?_⟩
  rw [written]
  exact Members.lookup_overwrite _ _ name

/-- An equality on `name_like` gives way to a pattern on `name`, and a field that is given twice
stands once. -/
theorem apply_assigns_of_collision :
    let flags : QueryFlags :=
      { entity := some "Department"
        fields := ["id", "name", "id"]
        equals := [⟨"name_like", "x"⟩]
        like := [⟨"name", "John"⟩]
        subquery := [⟨"id", "\x7b\"entity\":\"Order\",\"field\":\"id\"\x7d"⟩]
        sort := [⟨"name", .desc⟩] }
    let s := (Session.start "s" {}).session
    let after := (flags.apply s).session.query
    (flags.apply s).answer = .ok () ∧ after.fields = ["id", "name"] ∧
      after.sorts.keys = [⟨"name", .desc⟩] ∧
      after.filters.criteria.toJson.member? "name_like" = some (.string "John") := by
  intro flags s after
  have named : ∀ field ∈ flags.criterionFields, field ≠ "" := by decide
  have passes : (flags.apply s).answer.isOk = true := by decide +kernel
  have accepted : (flags.apply s).answer = .ok () := by
    cases answer : (flags.apply s).answer with
    | ok => rfl
    | error e =>
      rw [answer] at passes
      cases passes
  obtain ⟨criteria, before, assigned, applied, ⟨subqueries, decoded, rfl⟩, -, -, found⟩ :=
    apply_assigns named accepted
  have query : after = _ := congrArg Session.query applied
  refine ⟨accepted, ?_, ?_, ?_⟩
  · rw [query]
    rfl
  · rw [query]
    rfl
  · rw [query]
    refine (found "name_like").trans ?_
    cases decoded with
    | cons head rest =>
      cases rest
      obtain ⟨v, query, -, -, rfl⟩ := head
      rfl

end QueryFlags

end CommandLine

end EntityQuery
