import EntityQuery.CommandLine.Arguments
import EntityQuery.Proofs.CommandLine.QueryFlags

/-!
# Criterion flags have fields

Whatever the words of a command line are, the criterion flags that are read from
them have fields, so that none of them makes a form that is cancelled.

## Main Definitions

* `Options.Named`, `Command.Named`: no criterion flag is without a field.

## Main Statements

* `Options.named_record`: an option that is recorded has a field, if it is a
  criterion.
* `Reading.named_read`, `Reading.named_foldlM`: one word, and some of them.
* `Arguments.named_of_ofWords`: the criterion flags of a command line.
-/

namespace EntityQuery.CommandLine

/-- No criterion flag is without a field. -/
def Options.Named (o : Options) : Prop :=
  ∀ field ∈ o.query.criterionFields, field ≠ ""

namespace Options

variable {o after : Options} {flag : Flag} {raw : String} {command : Option CommandName}

/-- The same for each kind of criterion. -/
theorem named_iff : o.Named ↔
    (∀ a ∈ o.query.equals, a.field ≠ "") ∧ (∀ a ∈ o.query.like, a.field ≠ "") ∧
      (∀ r ∈ o.query.between, r.field ≠ "") ∧ ∀ a ∈ o.query.subquery, a.field ≠ "" := by
  simp only [Named, QueryFlags.criterionFields, List.forall_mem_append, List.forall_mem_map,
    and_assoc]

/-- A value that is accepted was read. -/
theorem valueOf_eq_ok_iff {α : Type} {parsed : Except ValueFault α} {value : α} :
    valueOf flag raw parsed = .ok value ↔ parsed = .ok value := by
  cases parsed with
  | error e => simp [valueOf, Except.mapError]
  | ok v => simp [valueOf, Except.mapError]

/-- An option that is recorded has a field, if it is a criterion. -/
theorem named_record (named : o.Named) (recorded : o.record flag raw = .ok after) :
    after.Named := by
  obtain ⟨equals, like, between, subquery⟩ := named_iff.mp named
  cases flag with
  | help | version | distinct => cases recorded
  | fields =>
    cases recorded
    exact named
  | equals =>
    obtain ⟨a, read, ⟨⟩⟩ := Except.bind_eq_ok_iff.mp recorded
    have last : ∀ a' ∈ [a], a'.field ≠ "" :=
      List.forall_mem_singleton.mpr (Assignment.field_ne_of_ofText (valueOf_eq_ok_iff.mp read))
    exact named_iff.mpr ⟨List.forall_mem_append.mpr ⟨equals, last⟩, like, between, subquery⟩
  | like =>
    obtain ⟨a, read, ⟨⟩⟩ := Except.bind_eq_ok_iff.mp recorded
    have last : ∀ a' ∈ [a], a'.field ≠ "" :=
      List.forall_mem_singleton.mpr (Assignment.field_ne_of_ofText (valueOf_eq_ok_iff.mp read))
    exact named_iff.mpr ⟨equals, List.forall_mem_append.mpr ⟨like, last⟩, between, subquery⟩
  | between =>
    obtain ⟨r, read, ⟨⟩⟩ := Except.bind_eq_ok_iff.mp recorded
    have last : ∀ r' ∈ [r], r'.field ≠ "" :=
      List.forall_mem_singleton.mpr (RangeAssignment.field_ne_of_ofText (valueOf_eq_ok_iff.mp read))
    exact named_iff.mpr ⟨equals, like, List.forall_mem_append.mpr ⟨between, last⟩, subquery⟩
  | subquery =>
    obtain ⟨a, read, ⟨⟩⟩ := Except.bind_eq_ok_iff.mp recorded
    have last : ∀ a' ∈ [a], a'.field ≠ "" :=
      List.forall_mem_singleton.mpr (Assignment.field_ne_of_ofText (valueOf_eq_ok_iff.mp read))
    exact named_iff.mpr ⟨equals, like, between, List.forall_mem_append.mpr ⟨subquery, last⟩⟩
  | _ =>
    obtain ⟨value, -, ⟨⟩⟩ := Except.bind_eq_ok_iff.mp recorded
    exact named

/-- An option without a value is no criterion. -/
theorem named_raise (named : o.Named) (raised : o.raise command flag = .ok after) :
    after.Named := by
  cases flag with
  | distinct =>
    rw [raise] at raised
    split at raised
    · cases raised
    · cases raised
      exact named
  | _ => cases raised

end Options

namespace Reading

variable {r after : Reading} {options : Options} {command : Option CommandName} {word : String}

theorem named_finish (named : r.options.Named) (finished : r.finish = .ok options) :
    options.Named := by
  rw [finish] at finished
  cases pending : r.pending with
  | nothing =>
    rw [pending] at finished
    cases finished
    exact named
  | awaiting flag =>
    rw [pending] at finished
    cases finished
  | given flag value =>
    rw [pending] at finished
    exact Options.named_record named finished

theorem named_long {body : String} (named : r.options.Named)
    (read : r.long command word body = .ok after) : after.options.Named := by
  unfold long at read
  split at read
  rename_i name value cut
  split at read
  · cases read
  · split at read
    · cases read
    · obtain ⟨before, finished, rest⟩ := Except.bind_eq_ok_iff.mp read
      obtain ⟨options, raised, ⟨⟩⟩ := Except.bind_eq_ok_iff.mp rest
      exact Options.named_raise (named_finish named finished) raised
    · obtain ⟨before, finished, rest⟩ := Except.bind_eq_ok_iff.mp read
      obtain ⟨options, recorded, ⟨⟩⟩ := Except.bind_eq_ok_iff.mp rest
      exact Options.named_record (named_finish named finished) recorded
    · obtain ⟨options, finished, ⟨⟩⟩ := Except.bind_eq_ok_iff.mp read
      exact named_finish named finished

theorem named_short {letters : List Char} (named : r.options.Named)
    (read : r.short command word letters = .ok after) : after.options.Named := by
  unfold short at read
  split at read
  · cases read
  · obtain ⟨before, finished, rest⟩ := Except.bind_eq_ok_iff.mp read
    obtain ⟨options, raised, ⟨⟩⟩ := Except.bind_eq_ok_iff.mp rest
    exact Options.named_raise (named_finish named finished) raised

theorem named_plain (named : r.options.Named) (read : r.plain command word = .ok after) :
    after.options.Named := by
  unfold plain at read
  split at read
  · obtain ⟨options, finished, ⟨⟩⟩ := Except.bind_eq_ok_iff.mp read
    have numbered : options.Named := named_finish named finished
    exact numbered
  · split at read
    · cases read
    · split at read <;> cases read

/-- Reading a word leaves no criterion without a field. -/
theorem named_read (named : r.options.Named) (read : r.read command word = .ok after) :
    after.options.Named := by
  unfold Reading.read at read
  split at read
  · exact named_plain named read
  · split at read
    · cases read
      exact named
    · exact named_long named read
    · exact named_short named read
    · split at read
      · cases read
        exact named
      · exact named_plain named read

/-- Neither does reading some. -/
theorem named_foldlM {words : List String} (named : r.options.Named)
    (read : words.foldlM (fun r word => Reading.read command word r) r = .ok after) :
    after.options.Named := by
  induction words generalizing r with
  | nil =>
    cases read
    exact named
  | cons word words ih =>
    obtain ⟨mid, first, rest⟩ := Except.bind_eq_ok_iff.mp read
    exact ih (named_read named first) rest

end Reading

/-- No criterion flag of a command is without a field. -/
def Command.Named : Command → Prop
  | .fetch query => ∀ field ∈ query.criterionFields, field ≠ ""
  | .exports query _ => ∀ field ∈ query.criterionFields, field ≠ ""
  | .payload query => ∀ field ∈ query.criterionFields, field ≠ ""
  | .sample _ => True
  | .shell => True

theorem named_of_readCommand {command : CommandName} {words : List String} {options : Options}
    (read : readCommand command words = .ok options) : options.Named := by
  obtain ⟨r, folded, rest⟩ := Except.bind_eq_ok_iff.mp read
  obtain ⟨finished, isFinished, rest⟩ := Except.bind_eq_ok_iff.mp rest
  have fresh : Options.Named {} := fun field mem => absurd mem List.not_mem_nil
  have named := Reading.named_finish (Reading.named_foldlM fresh folded) isFinished
  split at rest
  · cases rest
  · cases rest
    exact named

/-- Whatever the words are, every criterion flag that is read from them has a field. -/
theorem Arguments.named_of_ofWords {words : List String} {arguments : Arguments}
    (read : Arguments.ofWords words = .ok arguments) : arguments.command.Named := by
  suffices after : ∀ r, ofWordsAfter r words = .ok arguments → arguments.command.Named from
    after {} read
  clear read
  induction words with
  | nil =>
    intro r read
    obtain ⟨options, -, fault⟩ := Except.bind_eq_ok_iff.mp read
    cases fault
  | cons word words ih =>
    intro r read
    rw [ofWordsAfter] at read
    split at read
    · cases read
    · split at read
      · rename_i name found
        obtain ⟨options, isRead, rest⟩ := Except.bind_eq_ok_iff.mp read
        obtain ⟨outer, -, ⟨⟩⟩ := Except.bind_eq_ok_iff.mp rest
        have named := named_of_readCommand isRead
        cases name <;> first | exact named | trivial
      · obtain ⟨mid, -, rest⟩ := Except.bind_eq_ok_iff.mp read
        exact ih mid rest

end EntityQuery.CommandLine
