import EntityQuery.Proofs.Criteria.Form
import EntityQuery.Proofs.Shell.FirstWord
import EntityQuery.Rehearsal

/-!
# Lines that set a criterion

A line with a filter command sets the criterion that it names and does nothing
else, or it lacks a part and does nothing at all.  In neither case anything is
printed or logged.

## Main Definitions

* `Session.Sets`: one criterion is set, and everything else is as it was.
* `Shell.Command.Lacks`: a filter line without its field or an operand.

## Main Statements

* `Session.sets_put`: what setting a criterion comes to.
* `Shell.performText_form_of_means`, `Shell.performText_form_of_isCancelled`: the
  lines of forms.
* `Shell.performLine_filter`: what filter lines do.

## Design Notes

That nothing is printed is said by the computation being `pure`, in any monad.
-/

namespace EntityQuery

open Text

/-! ## Setting one criterion -/

/-- Of two sessions the later one has a criterion, as the only one of its wire name, and is as the
earlier one otherwise.  On the wire one member is overwritten. -/
structure Session.Sets (before : Session) (c : Criterion) (name : String) (v : Json)
    (after : Session) : Prop where
  rest : after = { before with query := { before.query with
    filters := { before.query.filters with criteria := after.query.filters.criteria } } }
  alone : after.query.filters.criteria.filter (·.wireName = name) = [c]
  others : after.query.filters.criteria.filter (·.wireName ≠ name) =
    before.query.filters.criteria.filter (·.wireName ≠ name)
  member : ∀ key, after.query.filters.criteria.toJson.member? key =
    if key = name then some v else before.query.filters.criteria.toJson.member? key

/-- The session after a criterion is set. -/
def Session.put (s : Session) (c : Criterion) : Session :=
  { s with query := { s.query with filters := s.query.filters.put c.field c.predicate } }

theorem Session.sets_put (s : Session) (c : Criterion) :
    s.Sets c c.wireName c.predicate.toJson (s.put c) := by
  obtain ⟨field, predicate⟩ := c
  let c : Criterion := ⟨field, predicate⟩
  have written := Criteria.toJson_setAll s.query.filters.criteria [c]
  refine ⟨rfl, Criteria.filter_set_eq c _, Criteria.filter_set_ne c _, fun key => ?_⟩
  calc (s.put c).query.filters.criteria.toJson.member? key
      = (Members.overwrite _ [c.member]).lookup key := congrArg (Json.member? key) written
    _ = if key = c.wireName then some c.predicate.toJson else _ := by
      rw [Members.lookup_overwrite]
      exact Members.lookup_cons key _ _ _
    _ = _ := by
      rw [Criteria.toJson_eq, Json.member?]
      rfl

namespace Shell

variable {m : Type → Type} [Monad m] {host : Host m} {service : Service m}

/-! ## Lines of forms -/

section Forms

variable [LawfulMonad m] {text : String} {form : CriterionForm}

/-- An edit that is accepted is all that its line does. -/
theorem performText_edit {e : Edit} {answer : Edit.Answer} {q : Query} (p : Progress)
    (parsed : Command.parse text = .ok (some (.edit e)))
    (applied : e.apply p.session.catalog p.session.query = (.ok answer, q)) :
    performText host service text p =
      pure { p with session := { p.session with query := q } } := by
  simp only [performText, parsed, perform, applied, pure_bind]

theorem performText_form_of_means {c : Criterion} (p : Progress)
    (parsed : Command.parse text = .ok (some (.edit (.form form)))) (means : form.Means c)
    (shallow : c.predicate.depth ≤ p.session.query.filters.maxDepth) :
    performText host service text p = pure { p with session := p.session.put c } :=
  performText_edit p parsed (Edit.apply_form_of_means means shallow _)

theorem performText_form_of_isCancelled (p : Progress)
    (parsed : Command.parse text = .ok (some (.edit (.form form)))) (cancelled : form.IsCancelled) :
    performText host service text p = pure p :=
  performText_edit p parsed (Edit.apply_form_of_isCancelled cancelled _ _)

end Forms

/-! ## Filter lines -/

namespace Command

/-- Of a filter command the field or an operand is missing. -/
def Lacks (name : String) (operands : List (List Char)) : Prop :=
  name ∈ ["eq", "like", "sub"] ∧ operands.length < 2 ∨ name = "between" ∧ operands.length < 3

variable {name : String} {rest text f lo hi v : List Char} {operands : List (List Char)}

theorem fieldAndOperand_pair (word : IsWord f) (trimmed : IsTrimmed v) (filled : v ≠ [])
    (spaced : Spaced [f, v] rest) :
    fieldAndOperand (trim rest) = (some (String.ofList f), some (String.ofList v)) := by
  obtain ⟨value, cut, alone⟩ := cutWord_of_spaced word spaced
  rw [fieldAndOperand, cut, alone.trim_eq trimmed]
  simp only [if_neg (trim_ne_nil_of_spaced word spaced), if_neg filled]

/-- Fewer than two words are no field with an operand. -/
theorem fieldAndOperand_lacks (cut : words rest = operands) (few : operands.length < 2) :
    (fieldAndOperand (trim rest)).1 = none ∨ (fieldAndOperand (trim rest)).2 = none := by
  have parts := isFieldAndText_fieldAndOperand (isTrimmed_trim rest)
  rw [words_trim, cut] at parts
  generalize (fieldAndOperand (trim rest)).1 = field, (fieldAndOperand (trim rest)).2 = value at parts ⊢
  cases parts with
  | nothing => exact .inl rfl
  | field => exact .inr rfl
  | both w filled =>
    have pos := List.length_pos_iff.mpr filled
    rw [List.length_cons] at few
    omega

theorem rangeForm_triple (cut : words rest = [f, lo, hi]) :
    rangeForm (trim rest) =
      .between (some (String.ofList f)) (some (String.ofList lo)) (some (String.ofList hi)) := by
  rw [rangeForm, words_trim, cut]
  rfl

theorem isCancelled_rangeForm (few : (words rest).length < 3) :
    (rangeForm (trim rest)).IsCancelled := by
  refine .inr (.inr (List.mem_pair.mpr (.inr ?_)))
  rw [words_trim, List.getElem?_eq_none]
  rw [List.length_map]
  omega

/-- A form that lacks a part is cancelled. -/
theorem Lacks.exists_isCancelled (lacks : Lacks name operands)
    (cut : words text = name.toList :: operands) :
    ∃ form, parse (String.ofList text) = .ok (some (.edit (.form form))) ∧ form.IsCancelled := by
  obtain ⟨spaced, all⟩ := words_eq_iff.mp cut
  have each : ∀ w ∈ operands, IsWord w := fun w mem => all w (List.mem_cons_of_mem _ mem)
  rcases lacks with ⟨named, few⟩ | ⟨rfl, few⟩
  · have listed : ∃ form, TakesPair name form ∧ ∀ field operand,
        (form field operand).field? = field ∧ (form field operand).operands = [operand] := by
      simp only [List.mem_cons, List.not_mem_nil, or_false] at named
      rcases named with rfl | rfl | rfl
      · exact ⟨_, .equals, fun _ _ => ⟨rfl, rfl⟩⟩
      · exact ⟨_, .like, fun _ _ => ⟨rfl, rfl⟩⟩
      · exact ⟨_, .subquery, fun _ _ => ⟨rfl, rfl⟩⟩
    obtain ⟨form, takes, parts⟩ := listed
    obtain ⟨rest, parsed, inner⟩ := (Reads.pair takes).parse_eq spaced
    refine ⟨_, parsed, ?_⟩
    rcases fieldAndOperand_lacks (inner.words_eq each) few with missing | missing
    · exact .inl ((parts _ _).1.trans missing)
    · exact .inr (.inr (by rw [(parts _ _).2, missing]; exact List.mem_cons_self))
  · obtain ⟨rest, parsed, inner⟩ := Reads.range.parse_eq spaced
    refine ⟨_, parsed, isCancelled_rangeForm ?_⟩
    rwa [inner.words_eq each]

end Command

open Command

/-- What the line of a filter command does.  Its first word selects the command, and blanks may stand
around all of its parts.  With a field and its operands, of which that of `eq` and of `like` may have
blanks inside, it sets one criterion of that field and prints nothing.  Without them nothing at all is
done. -/
theorem performLine_filter [LawfulMonad m] {line : List UInt8} {text : List Char}
    (decoded : Text.decode? line = some text) (host : Host m) (service : Service m) (p : Progress) :
    let run := performLine host service line p
    (∀ f v, IsWord f → IsTrimmed v → v ≠ [] →
      (Spaced ["eq".toList, f, v] text → ∃ s, run = pure { p with session := s } ∧
        p.session.Sets ⟨.ofList f, .equals (.text (.ofList v))⟩
          (.ofList f) (.string (.ofList v)) s) ∧
      (Spaced ["like".toList, f, v] text → ∃ s, run = pure { p with session := s } ∧
        p.session.Sets ⟨.ofList f, .like (.text (.ofList v))⟩
          (.ofList f ++ "_like") (.string (.ofList v)) s)) ∧
    (∀ f lo hi, IsWord f → IsWord lo → IsWord hi →
      Spaced ["between".toList, f, lo, hi] text → ∃ s, run = pure { p with session := s } ∧
        p.session.Sets ⟨.ofList f, .betweenTyped (.ofList lo) (.ofList hi)⟩ (.ofList f ++ "_between")
          (.array [(Scalar.ofTyped (.ofList lo)).toJson, (Scalar.ofTyped (.ofList hi)).toJson]) s) ∧
    ∀ name operands, words text = name.toList :: operands → Lacks name operands → run = pure p := by
  intro run
  have read : run = performText host service (String.ofList text) p := by
    simp only [run, performLine, decoded]
  rw [read]
  clear_value run
  -- What a form means is set, and has the member that is said.
  have sets {form : CriterionForm} {c : Criterion} {name : String}
      (parsed : Command.parse (String.ofList text) = .ok (some (.edit (.form form))))
      (means : form.Means c) (shallow : c.predicate.depth ≤ p.session.query.filters.maxDepth)
      (named : c.wireName = name) :
      ∃ s, performText host service (String.ofList text) p = pure { p with session := s } ∧
        p.session.Sets c name c.predicate.toJson s :=
    ⟨_, performText_form_of_means p parsed means shallow, named ▸ p.session.sets_put c⟩
  have present {f : List Char} (word : IsWord f) : String.ofList f ≠ "" :=
    fun none => word.ne_nil (String.ofList_injective none)
  refine ⟨fun f v word trimmed filled => ⟨fun spaced => ?_, fun spaced => ?_⟩,
    fun f lo hi word low high spaced => ?_, fun name operands cut lacks => ?_⟩
  · obtain ⟨rest, parsed, inner⟩ := (Reads.pair .equals).parse_eq spaced
    simp only [fieldAndOperand_pair word trimmed filled inner] at parsed
    exact sets parsed (.equals (present word) _) (Nat.zero_le _) (CriterionName.wireName_equals _)
  · obtain ⟨rest, parsed, inner⟩ := (Reads.pair .like).parse_eq spaced
    simp only [fieldAndOperand_pair word trimmed filled inner] at parsed
    exact sets parsed (.like (present word) _) (Nat.zero_le _) rfl
  · obtain ⟨rest, parsed, inner⟩ := Reads.range.parse_eq spaced
    have each : ∀ w ∈ [f, lo, hi], IsWord w := by simp [word, low, high]
    rw [rangeForm_triple (inner.words_eq each)] at parsed
    exact sets parsed (.between (present word) _ _) (Nat.zero_le _) rfl
  · obtain ⟨form, parsed, cancelled⟩ := lacks.exists_isCancelled cut
    exact performText_form_of_isCancelled p parsed cancelled

/-- A value with blanks inside, two bounds, and a bound that is missing. -/
theorem performLine_filter_of_inner_blanks :
    let p : Progress := ⟨(Session.start "s" {}).session, none⟩
    let run := fun line : String =>
      performLine Rehearsal.host Rehearsal.service (Text.encode line.toList) p
    (∃ s, run "  eq\tname   John  Smith " = pure { p with session := s } ∧
      p.session.Sets ⟨"name", .equals (.text "John  Smith")⟩ "name" (.string "John  Smith") s) ∧
    (∃ s, run "between age 18 x" = pure { p with session := s } ∧
      p.session.Sets ⟨"age", .betweenTyped "18" "x"⟩ "age_between"
        (.array [.number (.integer 18), .string "x"]) s) ∧
    run "between age 18" = pure p := by
  intro p run
  have equals : Spaced ["eq".toList, "name".toList, "John  Smith".toList]
      ("  ".toList ++ ("eq".toList ++ ("\t".toList ++ ("name".toList ++ ("   ".toList ++
        ("John  Smith".toList ++ " ".toList)))))) := by
    repeat refine .cons (by simp [isBlank]) (by simp [isBlank]) ?_
    exact .nil (by simp [isBlank])
  have between : Spaced ["between".toList, "age".toList, "18".toList, "x".toList]
      "between age 18 x".toList := (words_eq_iff.mp (by decide +kernel)).1
  have filter (line : String) (decoded : Text.decode? (Text.encode line.toList) = some line.toList) :=
    performLine_filter decoded Rehearsal.host Rehearsal.service p
  refine ⟨?_, ?_, ?_⟩
  · exact ((filter "  eq\tname   John  Smith " (by decide +kernel)).1 _ _ (by decide)
      ⟨by simp [isBlank], by simp [isBlank]⟩ (by decide)).1 equals
  · exact (filter "between age 18 x" (by decide +kernel)).2.1 _ _ _ (by decide) (by decide)
      (by decide) between
  · exact (filter "between age 18" (by decide +kernel)).2.2 "between" ["age".toList, "18".toList]
      (by decide +kernel) (.inr ⟨rfl, by decide⟩)

end Shell

end EntityQuery
