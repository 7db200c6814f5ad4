import EntityQuery.Query.Edit
import Mathlib.Data.List.Infix

/-!
# Sorts edited by position

A position counts from zero in the sorts as they are when an edit is made.  So an
edit at a position leaves the sorts before it alone, and sorts that were added
later can be changed and erased again without a trace.

## Main Definitions

* `Edit.sortPosition?`: the position that an edit of the sorts names.
* `Edit.SortsFrom`: an edit adds a sort, or names a position from a given one on.
* `Edit.SortStep`: what such an edit comes to.
* `Edit.answers`: the answers of a history, with `addedIn` and `erasedIn` as the
  sorts that they report as added and erased.

## Main Statements

* `Edit.sortStep_apply`: what one edit comes to, in four cases.
* `Edit.Behind.step`, `Edit.Behind.applyAll`: the first sorts stay, after one
  edit and after a history.
* `Edit.sorts_local`: histories of edits behind the sorts that there are.

## Design Notes

Answers tell what became of an edit: only an added sort is answered with its
position, and only an erased one with its key.
-/

namespace EntityQuery

namespace SortOrder

variable {o : SortOrder} {index : Nat}

theorem modify_of_lt (inside : index < o.length) (f : SortKey → SortKey) :
    o.modify index f = .ok ⟨o.keys.modify index f⟩ :=
  if_pos inside

theorem modify_of_le (outside : o.length ≤ index) (f : SortKey → SortKey) :
    o.modify index f = .error (.indexOutOfRange index o.length) :=
  if_neg (Nat.not_lt.mpr outside)

theorem erase_of_lt (inside : index < o.keys.length) :
    o.erase index = .ok (o.keys[index], ⟨o.keys.eraseIdx index⟩) := by
  rw [erase, List.getElem?_eq_getElem inside]

theorem erase_of_le (outside : o.length ≤ index) :
    o.erase index = .error (.indexOutOfRange index o.length) := by
  rw [erase, List.getElem?_eq_none outside]

end SortOrder

namespace Edit

/-- The position that an edit of the sorts names, if it names one. -/
def sortPosition? : Edit → Option Nat
  | .sortField index _ | .sortDirection index _ | .eraseSort index => some index
  | _ => none

/-- An edit adds a sort at the end, or it names the position of one, from `start` on. -/
inductive SortsFrom (start : Nat) : Edit → Prop where
  | addSort : SortsFrom start .addSort
  | addSortOn (field : String) : SortsFrom start (.addSortOn field)
  | sortField {index : Nat} (beyond : start ≤ index) (field : String) :
    SortsFrom start (.sortField index field)
  | sortDirection {index : Nat} (beyond : start ≤ index) (direction : Direction) :
    SortsFrom start (.sortDirection index direction)
  | eraseSort {index : Nat} (beyond : start ≤ index) : SortsFrom start (.eraseSort index)

/-! ## One edit -/

/-- What an edit of the sorts from `start` on comes to. -/
inductive SortStep (start : Nat) (q : Query) (edit : Edit) : Result → Prop where
  | added (field : String) (named : edit.sortPosition? = none) :
    SortStep start q edit
      (.ok (.position q.sorts.length), { q with sorts := q.sorts.appendField field })
  | set {index : Nat} (f : SortKey → SortKey) (named : edit.sortPosition? = some index)
    (other : edit ≠ .eraseSort index) (beyond : start ≤ index) (inside : index < q.sorts.length) :
    SortStep start q edit (.ok .done, { q with sorts := ⟨q.sorts.keys.modify index f⟩ })
  | erased {index : Nat} (is : edit = .eraseSort index) (beyond : start ≤ index)
    (inside : index < q.sorts.keys.length) :
    SortStep start q edit
      (.ok (.erasedSort q.sorts.keys[index]), { q with sorts := ⟨q.sorts.keys.eraseIdx index⟩ })
  | refused {index : Nat} (named : edit.sortPosition? = some index)
    (outside : q.sorts.length ≤ index) :
    SortStep start q edit (.error (.sort (.indexOutOfRange index q.sorts.length)), q)

variable {start : Nat} {edit : Edit} {catalog : Catalog}

/-- An edit of the sorts comes to one of four things. -/
theorem sortStep_apply (sorts : edit.SortsFrom start) (catalog : Catalog) (q : Query) :
    SortStep start q edit (edit.apply catalog q) := by
  cases sorts with
  | addSort => exact .added _ rfl
  | addSortOn field => exact .added field rfl
  | @sortField index beyond field =>
    rw [apply]
    rcases Nat.lt_or_ge index q.sorts.length with inside | outside
    · rw [SortOrder.modify_of_lt inside]
      exact .set _ rfl nofun beyond inside
    · rw [SortOrder.modify_of_le outside]
      exact .refused rfl outside
  | @sortDirection index beyond direction =>
    rw [apply]
    rcases Nat.lt_or_ge index q.sorts.length with inside | outside
    · rw [SortOrder.modify_of_lt inside]
      exact .set _ rfl nofun beyond inside
    · rw [SortOrder.modify_of_le outside]
      exact .refused rfl outside
  | @eraseSort index beyond =>
    rw [apply]
    rcases Nat.lt_or_ge index q.sorts.length with inside | outside
    · rw [SortOrder.erase_of_lt inside]
      exact .erased rfl beyond inside
    · rw [SortOrder.erase_of_le outside]
      exact .refused rfl outside

/-- What an edit of the sorts does, told by positions.  One past the end is refused with that
position and the number of sorts, and changes nothing; any other edit is accepted.  An erased sort
is answered, and those behind it come one earlier; one that is set changes no other. -/
structure ActsInPlace (catalog : Catalog) (q : Query) (edit : Edit) : Prop where
  refused : ∀ i, edit.sortPosition? = some i → q.sorts.length ≤ i →
    edit.apply catalog q = (.error (.sort (.indexOutOfRange i q.sorts.length)), q)
  accepted : (∀ i, edit.sortPosition? = some i → i < q.sorts.length) →
    ∃ answer, (edit.apply catalog q).1 = .ok answer
  shifted : ∀ i key, edit = .eraseSort i → q.sorts.keys[i]? = some key →
    (edit.apply catalog q).1 = .ok (.erasedSort key) ∧
      ∀ j, (edit.apply catalog q).2.sorts.keys[j]? = q.sorts.keys[if j < i then j else j + 1]?
  others : ∀ i, edit.sortPosition? = some i → edit ≠ .eraseSort i →
    ∀ j, j ≠ i → (edit.apply catalog q).2.sorts.keys[j]? = q.sorts.keys[j]?

theorem actsInPlace (sorts : edit.SortsFrom start) (catalog : Catalog) (q : Query) :
    edit.ActsInPlace catalog q := by
  have step := sortStep_apply sorts catalog q
  generalize result : edit.apply catalog q = r at step
  cases step with
  | added field named =>
    refine ⟨fun i at_i => ?_, fun _ => ⟨_, congrArg Prod.fst result⟩, fun i key is => ?_,
      fun i at_i => ?_⟩
    · cases named.symm.trans at_i
    · cases is
      cases named
    · cases named.symm.trans at_i
  | @set index f named other beyond inside =>
    refine ⟨fun i at_i outside => ?_, fun _ => ⟨_, congrArg Prod.fst result⟩, fun i key is => ?_,
      fun i at_i _ j elsewhere => ?_⟩
    · cases named.symm.trans at_i
      exact absurd inside (Nat.not_lt.mpr outside)
    · cases is
      cases named
      exact absurd rfl other
    · cases named.symm.trans at_i
      rw [result]
      simp only [List.getElem?_modify, if_neg (Ne.symm elsewhere), id_map']
  | @erased index is beyond inside =>
    cases is
    refine ⟨fun i at_i outside => ?_, fun _ => ⟨_, congrArg Prod.fst result⟩,
      fun i key is there => ?_, fun i at_i other => ?_⟩
    · cases at_i
      exact absurd inside (Nat.not_lt.mpr outside)
    · cases is
      rw [List.getElem?_eq_getElem inside] at there
      cases there
      rw [result]
      refine ⟨rfl, fun j => ?_⟩
      rw [List.getElem?_eraseIdx]
      split <;> rfl
    · cases at_i
      exact absurd rfl other
  | @refused index named outside =>
    refine ⟨fun i at_i _ => ?_, fun inside => ?_, fun i key is there => ?_, fun i _ _ j _ => ?_⟩
    · cases named.symm.trans at_i
      exact result
    · exact absurd (inside index named) (Nat.not_lt.mpr outside)
    · cases is
      cases named
      rw [List.getElem?_eq_none outside] at there
      cases there
    · rw [result]

/-! ## Histories -/

/-- The answers of a history, in order. -/
def answers (catalog : Catalog) : List Edit → Query → List (Except QueryError Answer)
  | [], _ => []
  | edit :: edits, q => (edit.apply catalog q).1 :: answers catalog edits (edit.apply catalog q).2

/-- The number of sorts that answers report as added. -/
def addedIn (answers : List (Except QueryError Answer)) : Nat :=
  answers.countP fun
    | .ok (.position _) => true
    | _ => false

/-- The number of sorts that answers report as erased. -/
def erasedIn (answers : List (Except QueryError Answer)) : Nat :=
  answers.countP fun
    | .ok (.erasedSort _) => true
    | _ => false

/-- The sorts of `p` begin with those of `q`, behind which so many were added and erased; the two
queries differ in nothing else. -/
structure Behind (q : Query) (added erased : Nat) (p : Query) : Prop where
  begins : q.sorts.keys <+: p.sorts.keys
  count : p.sorts.length + erased = q.sorts.length + added
  rest : { p with sorts := q.sorts } = q

namespace Behind

variable {q p : Query} {added erased : Nat}

theorem refl (q : Query) : Behind q 0 0 q :=
  ⟨List.prefix_refl _, rfl, rfl⟩

/-- Where as many were erased as added, nothing is left of it. -/
theorem eq_of_balanced (behind : Behind q added erased p) (balanced : erased = added) : p = q := by
  have lengths : q.sorts.keys.length = p.sorts.keys.length :=
    (Nat.add_right_cancel (balanced ▸ behind.count)).symm
  have keys : q.sorts = p.sorts :=
    congrArg SortOrder.mk (behind.begins.eq_of_length lengths)
  have rest := behind.rest
  rw [keys] at rest
  exact rest

/-- What comes before a position stays where only what is there, or behind it, is replaced. -/
theorem isPrefix_take_append {first keys : List SortKey} (begins : first <+: keys) {index : Nat}
    (beyond : first.length ≤ index) (more : List SortKey) : first <+: keys.take index ++ more :=
  (List.prefix_take_iff.mpr ⟨begins, beyond⟩).trans (List.prefix_append _ _)

/-- One more edit behind the first sorts. -/
theorem step (behind : Behind q added erased p) (sorts : edit.SortsFrom q.sorts.length)
    (catalog : Catalog) :
    Behind q (added + addedIn [(edit.apply catalog p).1])
      (erased + erasedIn [(edit.apply catalog p).1]) (edit.apply catalog p).2 := by
  have step := sortStep_apply sorts catalog p
  obtain ⟨begins, count, rest⟩ := behind
  generalize edit.apply catalog p = r at step
  cases step with
  | added field named =>
    have longer : (p.sorts.appendField field).length = p.sorts.length + 1 := List.length_append
    refine ⟨begins.trans (List.prefix_append _ _), ?_, rest⟩
    change (p.sorts.appendField field).length + erased = q.sorts.length + (added + 1)
    omega
  | @set index f named other beyond inside =>
    have same : (p.sorts.keys.modify index f).length = p.sorts.length := List.length_modify ..
    refine ⟨?_, (congrArg (· + erased) same).trans count, rest⟩
    rw [List.modify_eq_take_drop]
    exact isPrefix_take_append begins beyond _
  | @erased index is beyond inside =>
    have shorter : (p.sorts.keys.eraseIdx index).length + 1 = p.sorts.length := by
      rw [List.length_eraseIdx_of_lt inside]
      exact Nat.succ_pred_eq_of_pos (Nat.zero_lt_of_lt inside)
    refine ⟨?_, ?_, rest⟩
    · rw [List.eraseIdx_eq_take_drop_succ]
      exact isPrefix_take_append begins beyond _
    · change (p.sorts.keys.eraseIdx index).length + (erased + 1) = q.sorts.length + added
      omega
  | refused named outside => exact ⟨begins, count, rest⟩

/-- A history behind the first sorts. -/
theorem applyAll (behind : Behind q added erased p) {edits : List Edit}
    (sorts : ∀ edit ∈ edits, edit.SortsFrom q.sorts.length) (catalog : Catalog) :
    Behind q (added + addedIn (answers catalog edits p))
      (erased + erasedIn (answers catalog edits p)) (Edit.applyAll catalog edits p) := by
  induction edits generalizing p added erased with
  | nil => exact behind
  | cons edit edits ih =>
    obtain ⟨first, later⟩ := List.forall_mem_cons.mp sorts
    have after := ih (behind.step first catalog) later
    have counted (counts : Except QueryError Answer → Bool) :
        (answers catalog (edit :: edits) p).countP counts =
          [(edit.apply catalog p).1].countP counts +
            (answers catalog edits (edit.apply catalog p).2).countP counts := by
      rw [answers, ← List.singleton_append, List.countP_append]
    rw [addedIn, erasedIn, counted, counted, ← Nat.add_assoc, ← Nat.add_assoc]
    exact after

end Behind

/-- Edits of the sorts by position are local.  Let every edit of a history add a sort, or name a
position behind those that there are.  Then each acts on what is at its position and on nothing
else, or is refused and changes nothing.  After each of them the sorts begin with those that there
were before all, in order, and whenever as many have been erased as were added, the query is what
it was. -/
theorem sorts_local (catalog : Catalog) (q : Query) (edits : List Edit)
    (sorts : ∀ edit ∈ edits, edit.SortsFrom q.sorts.length) :
    (∀ edit ∈ edits, ∀ p, edit.ActsInPlace catalog p) ∧
    ∀ before, before <+: edits →
      q.sorts.keys <+: (Edit.applyAll catalog before q).sorts.keys ∧
      (erasedIn (answers catalog before q) = addedIn (answers catalog before q) →
        Edit.applyAll catalog before q = q) := by
  refine ⟨fun edit mem p => actsInPlace (sorts edit mem) catalog p, fun before part => ?_⟩
  have behind := (Behind.refl q).applyAll (fun edit mem => sorts edit (part.subset mem)) catalog
  rw [Nat.zero_add, Nat.zero_add] at behind
  exact ⟨behind.begins, behind.eq_of_balanced⟩

/-- Two sorts are added behind two others, changed and erased, with an edit refused in between. -/
theorem sorts_local_of_two_added :
    let q : Query := { sorts := ⟨[⟨"salary", .desc⟩, ⟨"name", .asc⟩]⟩ }
    let edits : List Edit :=
      [.addSortOn "id", .eraseSort 7, .addSort, .sortField 3 "joined", .eraseSort 2,
        .sortDirection 2 .desc, .sortDirection 3 .asc, .eraseSort 2]
    (∀ edit ∈ edits, edit.SortsFrom q.sorts.length) ∧
      addedIn (answers .standard edits q) = 2 ∧ erasedIn (answers .standard edits q) = 2 ∧
      Edit.applyAll .standard edits q = q := by
  intro q edits
  have sorts : ∀ edit ∈ edits, edit.SortsFrom q.sorts.length := by
    simp only [edits, List.forall_mem_cons]
    exact ⟨.addSortOn _, .eraseSort (by decide), .addSort, .sortField (by decide) _,
      .eraseSort (by decide), .sortDirection (by decide) _, .sortDirection (by decide) _,
      .eraseSort (by decide), nofun⟩
  have added : addedIn (answers .standard edits q) = 2 := by decide +kernel
  have erased : erasedIn (answers .standard edits q) = 2 := by decide +kernel
  have after := (sorts_local .standard q edits sorts).2 edits List.prefix_rfl
  exact ⟨sorts, added, erased, after.2 (erased.trans added.symm)⟩

end Edit

end EntityQuery
