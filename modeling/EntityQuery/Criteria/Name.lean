import EntityQuery.Criteria.Error
import EntityQuery.Text.Split

/-!
# Names of criteria

A criterion goes by its field and the kind of its predicate.  On the wire both
are one name, the field with a suffix for the kind.

    <field>               equality
    <field>_like          substring match
    <field>_between       inclusive range
    <field>_inSubquery    membership in a nested query

## Main Definitions

* `PredicateKind`, `CriterionName`: a kind of predicate; a field with a kind.
* `CriterionName.wireName`: the name on the wire.
* `CriterionName.ofWireName`: the field and kind that a wire name stands for.
* `CriterionName.IsCanonical`: the names that survive the wire.

## Design Notes

Reading tries the suffixes in the order of the table, so a bare field that ends
in `_like` reads back as a substring match on the shorter field.  Names are
ordered by field, then by kind in the order of the table.
-/

namespace EntityQuery

/-- The kind of a predicate. -/
inductive PredicateKind where
  | equals
  | like
  | between
  | inSubquery
deriving DecidableEq, Repr

namespace PredicateKind

/-- What stands behind the field on the wire. -/
def suffix : PredicateKind → String
  | .equals => ""
  | .like => "_like"
  | .between => "_between"
  | .inSubquery => "_inSubquery"

/-- The place of a kind in the order of kinds. -/
def rank : PredicateKind → Nat
  | .equals => 0
  | .like => 1
  | .between => 2
  | .inSubquery => 3

/-- The kinds that are told by a suffix, in the order in which they are tried. -/
def marked : List PredicateKind :=
  [.like, .between, .inSubquery]

theorem rank_injective {a b : PredicateKind} (h : a.rank = b.rank) : a = b := by
  cases a <;> cases b <;> first | rfl | cases h

end PredicateKind

/-- What a criterion goes by: its field and the kind of its predicate. -/
structure CriterionName where
  field : String
  kind : PredicateKind
deriving DecidableEq, Repr

namespace CriterionName

/-- The name on the wire. -/
def wireName (name : CriterionName) : String :=
  name.field ++ name.kind.suffix

/-- The field and kind of a wire name whose suffix is one of the given kinds'. -/
def split? (kinds : List PredicateKind) (raw : String) : Option CriterionName :=
  kinds.findSome? fun kind =>
    (Text.dropEnding kind.suffix.toList raw.toList).map fun field =>
      { field := String.ofList field, kind }

/-- The field and kind that a wire name stands for; one without a field stands for nothing. -/
def ofWireName (raw : String) : Except CriteriaError CriterionName :=
  let name := (split? PredicateKind.marked raw).getD { field := raw, kind := .equals }
  if name.field.isEmpty then .error (.invalidName raw) else .ok name

/-- Order by field, then by kind. -/
def lt (a b : CriterionName) : Bool :=
  a.field < b.field || (a.field == b.field && a.kind.rank < b.kind.rank)

/-- Whether a field ends like a wire name with a suffix. -/
def endsInSuffix (field : String) : Bool :=
  PredicateKind.marked.any fun kind => kind.suffix.toList.isSuffixOf field.toList

/-- There is a field, and the wire name does not read as another kind. -/
def IsCanonical (name : CriterionName) : Prop :=
  name.field ≠ "" ∧ (name.kind = .equals → endsInSuffix name.field = false)

end CriterionName

end EntityQuery
