import EntityQuery.Proofs.Criteria.Built

/-!
# Erasing by wire name

Criteria are shown under their wire names and erased by them.  A wire name is
read before anything is erased, and what it reads as is looked for by name.  So
this reaches the criteria of canonical names and no others: an equality on a
field that ends in a suffix is looked for as a predicate of another kind on a
shorter field, and a criterion without a field is not looked for at all.

## Main Statements

* `BoundedCriteria.eraseWireName_of_canonical`: a criterion of a canonical name
  goes, and no other.
* `BoundedCriteria.eraseWireName_of_not_canonical`: one of another name stays.
* `BoundedCriteria.Built.eraseWireName_eq`: what a wire name erases.

## Design Notes

Setting a criterion tells criteria apart by wire name, and erasing by name.  The
two agree on canonical names only.
-/

namespace EntityQuery

namespace BoundedCriteria

variable {b : BoundedCriteria} {c : Criterion} {raw : String}

/-- A wire name that no criterion has erases nothing. -/
theorem eraseWireName_of_absent (absent : ∀ c ∈ b.criteria, c.wireName ≠ raw) :
    b.eraseWireName raw = (none, b) := by
  rw [eraseWireName]
  split
  · rename_i name read
    obtain ⟨rfl, -⟩ := CriterionName.ofWireName_eq_ok_iff.mp read
    exact erase_of_absent fun c mem named => absent c mem (congrArg CriterionName.wireName named)
  · rfl

/-- The wire name of a criterion of a canonical name erases it, and leaves all the others. -/
theorem eraseWireName_of_canonical (keyed : Criteria.Keyed b.criteria) (mem : c ∈ b.criteria)
    (canonical : c.name.IsCanonical) :
    b.eraseWireName c.wireName =
      (some c.predicate, { b with criteria := b.criteria.filter (·.wireName ≠ c.wireName) }) := by
  have found : b.predicate? c.name = some c.predicate :=
    keyed.predicate?_eq_some_iff.mpr ⟨c, mem, rfl, rfl⟩
  have left : b.criteria.erase c.name = b.criteria.filter (·.wireName ≠ c.wireName) := by
    refine List.filter_congr fun x other => decide_eq_decide.mpr (not_congr ⟨fun named => ?_, ?_⟩)
    · exact congrArg CriterionName.wireName named
    · intro wires
      rw [List.inj_on_of_nodup_map keyed.distinct other mem wires]
  rw [eraseWireName, Criterion.wireName, CriterionName.ofWireName_wireName canonical]
  change (b.predicate? c.name, _) = _
  rw [found, left]
  rfl

/-- The wire name of any other criterion erases nothing. -/
theorem eraseWireName_of_not_canonical (keyed : Criteria.Keyed b.criteria) (mem : c ∈ b.criteria)
    (other : ¬c.name.IsCanonical) : b.eraseWireName c.wireName = (none, b) := by
  rw [eraseWireName]
  split
  · rename_i name read
    obtain ⟨written, canonical⟩ := CriterionName.ofWireName_eq_ok_iff.mp read
    -- Nothing goes by the name that is read, for it would share the wire name with the criterion.
    refine erase_of_absent fun x mem' named => other ?_
    have wires : x.wireName = c.wireName := by rw [written, Criterion.wireName, named]
    rw [← List.inj_on_of_nodup_map keyed.distinct mem' mem wires, named]
    exact canonical
  · rfl

namespace Built

/-- However criteria have come about, the wire name of a criterion erases it and leaves all the
others, provided that its name is canonical; otherwise it erases nothing, and neither does a wire
name that no criterion has. -/
theorem eraseWireName_eq (built : b.Built) :
    (∀ c ∈ b.criteria, b.eraseWireName c.wireName =
      if c.name.IsCanonical then
        (some c.predicate, { b with criteria := b.criteria.filter (·.wireName ≠ c.wireName) })
      else (none, b)) ∧
    ∀ raw, (∀ c ∈ b.criteria, c.wireName ≠ raw) → b.eraseWireName raw = (none, b) := by
  have keyed := built.everyLevel_keyed.root
  refine ⟨fun c mem => ?_, fun raw absent => eraseWireName_of_absent absent⟩
  split
  · rename_i canonical
    exact eraseWireName_of_canonical keyed mem canonical
  · rename_i other
    exact eraseWireName_of_not_canonical keyed mem other

/-- Next to a substring match stands an equality on a field that ends in a suffix. -/
theorem eraseWireName_eq_of_two :
    let b := ((CriteriaEdit.equals "age_like" (.text "x")).apply
      ((CriteriaEdit.like "name" (.text "John")).apply (.empty)).2).2
    b.Built ∧
      b.eraseWireName "name_like" =
        (some (.like (.text "John")), { b with criteria := [⟨"age_like", .equals (.text "x")⟩] }) ∧
      b.eraseWireName "age_like" = (none, b) := by
  intro b
  have built : b.Built :=
    .edit (.edit (.empty _) (.like "name" (.text "John")) nofun) (.equals "age_like" (.text "x"))
      nofun
  have erased := built.eraseWireName_eq.1
  refine ⟨built, (erased ⟨"name", .like (.text "John")⟩ ?_).trans (if_pos (by decide)),
    (erased ⟨"age_like", .equals (.text "x")⟩ ?_).trans (if_neg (by decide))⟩
  · exact List.mem_cons_of_mem _ List.mem_cons_self
  · exact List.mem_cons_self

/-- An equality on a field that ends in a suffix is shown under a wire name by which it cannot be
erased. -/
theorem eraseWireName_misses_equality :
    let c : Criterion := { field := "name_like", predicate := .equals (.text "x") }
    let b := ((CriteriaEdit.equals "name_like" (.text "x")).apply (.empty)).2
    b.Built ∧ c ∈ b.criteria ∧ c.field ≠ "" ∧ c.wireName = "name_like" ∧
      b.eraseWireName "name_like" = (none, b) :=
  ⟨.edit (.empty _) _ nofun, List.mem_cons_self, by decide, rfl, rfl⟩

end Built

end BoundedCriteria

end EntityQuery
