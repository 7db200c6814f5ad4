import EntityQuery.Criteria.Form
import EntityQuery.Proofs.Criteria.Acceptance
import EntityQuery.Query.Edit

/-!
# What becomes of a form

A form is cancelled, refused or submitted as one criterion, and what it lacks or
says decides which.  In the first two cases nothing is changed.  In the third
its criterion replaces all of its wire name, and nothing else is touched.

## Main Definitions

* `CriterionForm.IsCancelled`, `CriterionForm.IsRefused`: told by the parts of a
  form, and for a typed subquery by the grammar.
* `CriterionForm.Means`: the criterion that the parts stand for.

## Main Statements

* `CriterionForm.cancelled_or_refused_or_means`: there is no fourth case.
* `CriterionForm.submit_of_isCancelled`, `CriterionForm.submit_of_isRefused`,
  `CriterionForm.submit_of_means`: what is answered in each.
* `Edit.form_undivided`: a form is applied as a whole or not at all.

## Design Notes

A typed subquery is compared with the bound when it is read, and once more when
it is set.  The second comparison never fails.
-/

namespace EntityQuery

namespace Json

/-- A parsed value has its members in order. -/
theorem isNormal_of_parse {text : String} {v : Json} (parsed : parse text = .ok v) : v.IsNormal := by
  obtain ⟨read, -, rfl⟩ := Except.map_eq_ok_iff.mp parsed
  exact isNormal_normalize read

end Json

/-! ## Subqueries within a bound -/

/-- A subquery is one level deeper than the chains in its criteria. -/
theorem Predicate.ReadFrom.hasChain_iff {v : Json} {query : Subquery}
    (read : ReadFrom v (.inSubquery query)) (normal : v.IsNormal) {n : Nat} :
    v.filters.HasChain n ↔ n < (Predicate.inSubquery query).depth := by
  cases read with
  | inSubquery entity field filters =>
    rw [filters.hasChain_iff normal.filters, depth_inSubquery]
    omega

namespace Subquery

variable {v : Json} {maxDepth : Nat} {query : Subquery}

theorem ofJson_eq_ok_iff_readFrom :
    ofJson v maxDepth = .ok query ↔
      Predicate.ReadFrom v (.inSubquery query) ∧
        (Predicate.inSubquery query).depth ≤ maxDepth := by
  rw [ofJson_eq_ok_iff, ofAnyJson_eq_ok_iff, Predicate.ofJson_eq_ok_iff]
  exact and_congr_left fun _ => and_iff_right rfl

/-- Within a bound exactly the subqueries of the grammar are read that are not nested deeper. -/
theorem exists_ofJson_eq_ok_iff (normal : v.IsNormal) :
    (∃ query, ofJson v maxDepth = .ok query) ↔
      v.IsSubquery ∧ ∀ n, v.filters.HasChain n → n < maxDepth := by
  have operand : (∃ p : Predicate, p.kind = .inSubquery ∧ Predicate.ReadFrom v p) ↔ v.IsSubquery :=
    Predicate.exists_readFrom_iff (Criteria.exists_readFrom_iff v.filters)
  constructor
  · rintro ⟨query, accepted⟩
    obtain ⟨read, shallow⟩ := ofJson_eq_ok_iff_readFrom.mp accepted
    refine ⟨operand.mp ⟨_, rfl, read⟩, fun n chain => ?_⟩
    exact Nat.lt_of_lt_of_le ((read.hasChain_iff normal).mp chain) shallow
  · rintro ⟨fits, bounded⟩
    obtain ⟨p, isQuery, read⟩ := operand.mpr fits
    cases p with
    | inSubquery query =>
      refine ⟨query, ofJson_eq_ok_iff_readFrom.mpr ⟨read, ?_⟩⟩
      by_contra deep
      exact Nat.lt_irrefl _ (bounded maxDepth ((read.hasChain_iff normal).mpr (Nat.not_le.mp deep)))
    | _ => cases isQuery

end Subquery

/-! ## Forms -/

namespace CriterionForm

/-- The field that is typed, if any. -/
def field? : CriterionForm → Option String
  | .equals field _ => field
  | .like field _ => field
  | .between field _ _ => field
  | .subquery field _ => field

/-- The operands of a form, typed or missing. -/
def operands : CriterionForm → List (Option String)
  | .equals _ value => [value]
  | .like _ pattern => [pattern]
  | .between _ lower upper => [lower, upper]
  | .subquery _ spec => [spec]

/-- The field is missing or empty, or some operand is missing. -/
def IsCancelled (form : CriterionForm) : Prop :=
  form.field? = none ∨ form.field? = some "" ∨ none ∈ form.operands

/-- A subquery with a field has been typed, but as no JSON, as no subquery, or nested too deep. -/
inductive IsRefused (maxDepth : Nat) : CriterionForm → Prop
  | notJson {field text : String} {e : Json.Error} (present : field ≠ "")
      (unparsed : Json.parse text = .error e) : IsRefused maxDepth (.subquery field text)
  | notSubquery {field text : String} {v : Json} (present : field ≠ "")
      (parsed : Json.parse text = .ok v) (other : ¬v.IsSubquery) :
      IsRefused maxDepth (.subquery field text)
  | tooDeep {field text : String} {v : Json} {n : Nat} (present : field ≠ "")
      (parsed : Json.parse text = .ok v) (chain : v.filters.HasChain n) (deep : maxDepth < n + 1) :
      IsRefused maxDepth (.subquery field text)

/-- The criterion that a form stands for: texts as they are typed, bounds as numbers where they are
written so, and a subquery as its text reads. -/
inductive Means : CriterionForm → Criterion → Prop
  | equals {field : String} (present : field ≠ "") (value : String) :
      Means (.equals field value) ⟨field, .equals (.text value)⟩
  | like {field : String} (present : field ≠ "") (pattern : String) :
      Means (.like field pattern) ⟨field, .like (.text pattern)⟩
  | between {field : String} (present : field ≠ "") (lower upper : String) :
      Means (.between field lower upper) ⟨field, .between (.ofTyped lower) (.ofTyped upper)⟩
  | subquery {field text : String} {v : Json} {query : Subquery} (present : field ≠ "")
      (parsed : Json.parse text = .ok v) (read : Predicate.ReadFrom v (.inSubquery query)) :
      Means (.subquery field text) ⟨field, .inSubquery query⟩

variable {form : CriterionForm} {b : BoundedCriteria} {maxDepth : Nat} {field text : String}

/-- A field that is not empty counts as typed. -/
theorem filter_of_ne (present : field ≠ "") : (some field).filter (· ≠ "") = some field :=
  Option.filter_some_pos (by simpa)

theorem filled_of_ne (present : field ≠ "") (predicate : Option Predicate) :
    filled field predicate = predicate.map (⟨field, ·⟩) := by
  rw [filled, filter_of_ne present]
  cases predicate <;> rfl

/-- A cancelled form makes up no criterion. -/
theorem criterion?_of_isCancelled (cancelled : form.IsCancelled) (maxDepth : Nat) :
    form.criterion? maxDepth = .ok none := by
  rcases cancelled with missing | empty | missing
  · cases form <;> cases missing <;> rfl
  · cases form <;> cases empty <;> rfl
  · have unfilled : ∀ field : Option String, filled field none = none := by
      rintro (_ | field)
      · rfl
      · rw [filled]
        cases (some field).filter (· ≠ "") <;> rfl
    cases form with
    | equals field value | like field value =>
      cases List.mem_singleton.mp missing
      exact congrArg Except.ok (unfilled field)
    | between field lower upper =>
      refine congrArg Except.ok ?_
      rcases List.mem_pair.mp missing with rfl | rfl
      · exact unfilled field
      · cases lower <;> exact unfilled field
    | subquery field spec =>
      cases List.mem_singleton.mp missing
      simp [criterion?]

/-- A typed subquery with a field makes up a criterion if its value is read. -/
theorem criterion?_subquery (present : field ≠ "") (text : String) (maxDepth : Nat) :
    (subquery field text).criterion? maxDepth =
      (readSubquery field text maxDepth).map fun query => some ⟨field, .inSubquery query⟩ := by
  simp only [criterion?, filter_of_ne present]

theorem readSubquery_of_parse {v : Json} (parsed : Json.parse text = .ok v) (field : String)
    (maxDepth : Nat) : readSubquery field text maxDepth = Subquery.ofJson v maxDepth := by
  rw [readSubquery, parsed]

/-- A form makes up the criterion that it stands for, within the bound. -/
theorem criterion?_of_means {c : Criterion} (means : form.Means c)
    (shallow : c.predicate.depth ≤ maxDepth) : form.criterion? maxDepth = .ok (some c) := by
  cases means with
  | equals present | like present | between present =>
    exact congrArg Except.ok (filled_of_ne present _)
  | subquery present parsed read =>
    have accepted := Subquery.ofJson_eq_ok_iff_readFrom.mpr ⟨read, shallow⟩
    rw [criterion?_subquery present, readSubquery_of_parse parsed, accepted]
    rfl

theorem criterion?_of_isRefused (refused : form.IsRefused maxDepth) :
    ∃ e, form.criterion? maxDepth = .error e := by
  have of_parse : ∀ {field text v}, field ≠ "" → Json.parse text = .ok v →
      (¬∃ query, Subquery.ofJson v maxDepth = .ok query) →
        ∃ e, (subquery field text).criterion? maxDepth = .error e := by
    intro field text v present parsed unread
    rw [criterion?_subquery present, readSubquery_of_parse parsed]
    cases read : Subquery.ofJson v maxDepth with
    | error e => exact ⟨e, rfl⟩
    | ok query => exact absurd ⟨query, read⟩ unread
  cases refused with
  | notJson present unparsed =>
    rw [criterion?_subquery present, readSubquery, unparsed]
    exact ⟨_, rfl⟩
  | notSubquery present parsed other =>
    refine of_parse present parsed fun read => other ?_
    exact ((Subquery.exists_ofJson_eq_ok_iff (Json.isNormal_of_parse parsed)).mp read).1
  | tooDeep present parsed chain deep =>
    refine of_parse present parsed fun read => ?_
    have bounded := ((Subquery.exists_ofJson_eq_ok_iff (Json.isNormal_of_parse parsed)).mp read).2
    exact Nat.lt_irrefl _ (Nat.lt_of_lt_of_le (bounded _ chain) (Nat.le_of_lt_succ deep))

/-- A subquery that is typed on a field is refused, or its text reads as one within the bound. -/
theorem refused_or_means_of_subquery (present : field ≠ "") (text : String) (maxDepth : Nat) :
    (subquery field text).IsRefused maxDepth ∨
      ∃ c, (subquery field text).Means c ∧ c.predicate.depth ≤ maxDepth := by
  cases parsed : Json.parse text with
  | error e => exact .inl (.notJson present parsed)
  | ok v =>
    by_cases fits : v.IsSubquery
    · by_cases bounded : ∀ n, v.filters.HasChain n → n < maxDepth
      · have normal := Json.isNormal_of_parse parsed
        obtain ⟨query, accepted⟩ := (Subquery.exists_ofJson_eq_ok_iff normal).mpr ⟨fits, bounded⟩
        obtain ⟨read, shallow⟩ := Subquery.ofJson_eq_ok_iff_readFrom.mp accepted
        exact .inr ⟨_, .subquery present parsed read, shallow⟩
      · push Not at bounded
        obtain ⟨n, chain, deep⟩ := bounded
        exact .inl (.tooDeep present parsed chain (Nat.lt_succ_of_le deep))
    · exact .inl (.notSubquery present parsed fits)

/-- There is no fourth case. -/
theorem cancelled_or_refused_or_means (form : CriterionForm) (maxDepth : Nat) :
    form.IsCancelled ∨ form.IsRefused maxDepth ∨
      ∃ c, form.Means c ∧ c.predicate.depth ≤ maxDepth := by
  cases named : form.field? with
  | none => exact .inl (.inl named)
  | some field =>
    by_cases present : field = ""
    · exact .inl (.inr (.inl (present ▸ named)))
    by_cases missing : none ∈ form.operands
    · exact .inl (.inr (.inr missing))
    refine .inr ?_
    cases form with
    | equals _ value =>
      cases named
      cases value with
      | none => exact absurd List.mem_cons_self missing
      | some value => exact .inr ⟨_, .equals present value, Nat.zero_le _⟩
    | like _ pattern =>
      cases named
      cases pattern with
      | none => exact absurd List.mem_cons_self missing
      | some pattern => exact .inr ⟨_, .like present pattern, Nat.zero_le _⟩
    | between _ lower upper =>
      cases named
      rcases lower with _ | lower
      · exact absurd List.mem_cons_self missing
      rcases upper with _ | upper
      · exact absurd (List.mem_cons_of_mem _ List.mem_cons_self) missing
      exact .inr ⟨_, .between present lower upper, Nat.zero_le _⟩
    | subquery _ spec =>
      cases named
      cases spec with
      | none => exact absurd List.mem_cons_self missing
      | some text => exact refused_or_means_of_subquery present text maxDepth

/-! ## Submitting -/

theorem submit_of_isCancelled (cancelled : form.IsCancelled) (b : BoundedCriteria) :
    form.submit b = .ok (false, b) := by
  rw [submit, criterion?_of_isCancelled cancelled]
  rfl

theorem submit_of_isRefused (refused : form.IsRefused b.maxDepth) :
    ∃ e, form.submit b = .error e := by
  obtain ⟨e, fault⟩ := criterion?_of_isRefused refused
  rw [submit, fault]
  exact ⟨e, rfl⟩

theorem submit_of_means {c : Criterion} (means : form.Means c)
    (shallow : c.predicate.depth ≤ b.maxDepth) :
    form.submit b = .ok (true, b.put c.field c.predicate) := by
  rw [submit, criterion?_of_means means shallow]
  change (b.set c.field c.predicate).map (fun after => (true, after)) = _
  rw [BoundedCriteria.set_of_depth_le shallow]
  rfl

end CriterionForm

namespace Edit

variable {form : CriterionForm} {q : Query}

theorem apply_form_of_isCancelled (cancelled : form.IsCancelled) (catalog : Catalog) (q : Query) :
    (Edit.form form).apply catalog q = (.ok (.flag false), q) := by
  rw [apply, CriterionForm.submit_of_isCancelled cancelled]
  rfl

theorem apply_form_of_isRefused (refused : form.IsRefused q.filters.maxDepth) (catalog : Catalog) :
    ∃ e, (Edit.form form).apply catalog q = (.error e, q) := by
  obtain ⟨e, fault⟩ := CriterionForm.submit_of_isRefused refused
  rw [apply, fault]
  exact ⟨.criteria e, rfl⟩

theorem apply_form_of_means {c : Criterion} (means : form.Means c)
    (shallow : c.predicate.depth ≤ q.filters.maxDepth) (catalog : Catalog) :
    (Edit.form form).apply catalog q =
      (.ok (.flag true), { q with filters := q.filters.put c.field c.predicate }) := by
  rw [apply, CriterionForm.submit_of_means means shallow]
  rfl

/-- A form answers that it was cancelled exactly if it was. -/
theorem apply_form_eq_flag_false_iff (catalog : Catalog) :
    ((Edit.form form).apply catalog q).1 = .ok (.flag false) ↔ form.IsCancelled := by
  constructor
  · intro answer
    rcases form.cancelled_or_refused_or_means q.filters.maxDepth with
      cancelled | refused | ⟨c, means, shallow⟩
    · exact cancelled
    · obtain ⟨e, fault⟩ := apply_form_of_isRefused refused catalog
      rw [fault] at answer
      cases answer
    · rw [apply_form_of_means means shallow] at answer
      cases answer
  · intro cancelled
    rw [apply_form_of_isCancelled cancelled]

/-- A form answers an error exactly if it is refused. -/
theorem exists_apply_form_eq_error_iff (catalog : Catalog) :
    (∃ e, ((Edit.form form).apply catalog q).1 = .error e) ↔
      form.IsRefused q.filters.maxDepth := by
  constructor
  · rintro ⟨e, answer⟩
    rcases form.cancelled_or_refused_or_means q.filters.maxDepth with
      cancelled | refused | ⟨c, means, shallow⟩
    · rw [apply_form_of_isCancelled cancelled] at answer
      cases answer
    · exact refused
    · rw [apply_form_of_means means shallow] at answer
      cases answer
  · intro refused
    obtain ⟨e, fault⟩ := apply_form_of_isRefused refused catalog
    exact ⟨e, congrArg Prod.fst fault⟩

/-- A form is applied as a whole or not at all.  It answers that it was cancelled exactly if a part
of it is missing or the field is empty, and an error exactly if it is a subquery that is refused, and
then the query is as it was.  Otherwise the criterion that it stands for is there under its name and
is the only one of its wire name, and those of other wire names, the bound and the rest of the query
are as they were. -/
theorem form_undivided (catalog : Catalog) (form : CriterionForm) (q : Query) :
    let result := (Edit.form form).apply catalog q
    let maxDepth := q.filters.maxDepth
    (result.1 = .ok (.flag false) ↔ form.IsCancelled) ∧
    ((∃ e, result.1 = .error e) ↔ form.IsRefused maxDepth) ∧
    (form.IsCancelled ∨ form.IsRefused maxDepth → result.2 = q) ∧
    (¬form.IsCancelled ∧ ¬form.IsRefused maxDepth →
      result.1 = .ok (.flag true) ∧ ∃ c criteria,
        form.Means c ∧ result.2 = { q with filters := { criteria, maxDepth } } ∧
        criteria.predicate? c.name = some c.predicate ∧
        criteria.filter (·.wireName = c.wireName) = [c] ∧
        criteria.filter (·.wireName ≠ c.wireName) =
          q.filters.criteria.filter (·.wireName ≠ c.wireName)) := by
  intro result maxDepth
  refine ⟨apply_form_eq_flag_false_iff catalog, exists_apply_form_eq_error_iff catalog, ?_, ?_⟩
  · rintro (cancelled | refused)
    · exact congrArg Prod.snd (apply_form_of_isCancelled cancelled catalog q)
    · obtain ⟨e, fault⟩ := apply_form_of_isRefused refused catalog
      exact congrArg Prod.snd fault
  · rintro ⟨notCancelled, notRefused⟩
    have three := form.cancelled_or_refused_or_means maxDepth
    obtain ⟨⟨field, predicate⟩, means, shallow⟩ :=
      (three.resolve_left notCancelled).resolve_left notRefused
    have applied : result = _ := apply_form_of_means means shallow catalog
    rw [applied]
    exact ⟨rfl, _, _, means, rfl, Criteria.predicate?_set _ _, Criteria.filter_set_eq _ _,
      Criteria.filter_set_ne _ _⟩

end Edit

end EntityQuery
