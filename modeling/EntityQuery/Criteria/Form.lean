import EntityQuery.Criteria.Reading

/-!
# Forms

What somebody has typed so far to add one criterion.

## Main Definitions

* `CriterionForm`: the parts of a criterion, each of which may be missing.
* `CriterionForm.criterion?`: the criterion that the parts make up.
* `CriterionForm.submit`: adds it.

## Design Notes

A form without a field or without an operand is cancelled, which is not an
error.  An empty field counts as missing; an empty operand is an operand.
-/

namespace EntityQuery

/-- The typed parts of a criterion. -/
inductive CriterionForm where
  | equals (field value : Option String)
  | like (field pattern : Option String)
  | between (field lower upper : Option String)
  /-- The subquery is typed as JSON text. -/
  | subquery (field spec : Option String)
deriving DecidableEq, Repr

namespace CriterionForm

/-- The criterion of a field and a predicate, if both are there. -/
def filled (field : Option String) (predicate : Option Predicate) : Option Criterion := do
  let field ← field.filter (· ≠ "")
  let predicate ← predicate
  pure { field, predicate }

/-- The subquery that a typed text stands for, nested at most `maxDepth` deep. -/
def readSubquery (field text : String) (maxDepth : Nat) : Except CriteriaError Subquery :=
  match Json.parse text with
  | .error e =>
    .error (.invalidValue (CriterionName.wireName ⟨field, .inSubquery⟩) (.notJson e.message))
  | .ok v => Subquery.ofJson v maxDepth

/-- The criterion that a form makes up; a cancelled form makes up none. -/
def criterion? (maxDepth : Nat) : CriterionForm → Except CriteriaError (Option Criterion)
  | .equals field value =>
    .ok (filled field (value.map fun s => .equals (.text s)))
  | .like field pattern =>
    .ok (filled field (pattern.map fun s => .like (.text s)))
  | .between field lower upper =>
    .ok (filled field (lower.bind fun l => upper.map fun u => .betweenTyped l u))
  | .subquery field spec =>
    match field.filter (· ≠ ""), spec with
    | some field, some spec =>
      (readSubquery field spec maxDepth).map fun query =>
        some { field, predicate := .inSubquery query }
    | _, _ => .ok none

/-- Adds the criterion of a form; the answer is false if the form was cancelled. -/
def submit (form : CriterionForm) (b : BoundedCriteria) :
    Except CriteriaError (Bool × BoundedCriteria) := do
  match ← form.criterion? b.maxDepth with
  | none => pure (false, b)
  | some c => pure (true, ← b.set c.field c.predicate)

end CriterionForm

end EntityQuery
