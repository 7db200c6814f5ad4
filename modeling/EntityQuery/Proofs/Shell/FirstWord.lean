import EntityQuery.Proofs.Words
import EntityQuery.Shell.Run

/-!
# The first word of a line

The first word of a line selects the command, and what follows it, trimmed, is
what the command reads.  Commands that read alike are told apart by a table of
their names.

## Main Definitions

* `Shell.Command.IsBare`, `TakesText`, `TakesPair`, `TakesCount`: tables of
  commands that read alike.
* `Shell.Command.Reads`: the names of all commands, and how each is read.

## Main Statements

* `Shell.Command.Reads.ofWord_eq`, `Shell.Command.reads_or_unknown`: the commands
  are those of the tables.
* `Shell.Command.parse_of_spaced`, `Shell.Command.parse_of_words`: a line with its
  first word.
-/

namespace EntityQuery.Shell.Command

open Text

/-! ## Commands that read alike -/

/-- The commands that read nothing. -/
inductive IsBare : String → Command → Prop
  | clear : IsBare "clear" (.edit .clearCriteria)
  | next : IsBare "next" (.edit .nextPage)
  | previous : IsBare "prev" (.edit .previousPage)
  | request : IsBare "show" .request
  | filters : IsBare "filters" .filters
  | fetch : IsBare "fetch" .fetch
  | help : IsBare "help" .help
  | questionMark : IsBare "?" .help
  | quit : IsBare "quit" .quit
  | exit : IsBare "exit" .quit

/-- The commands of one text, each with its usage. -/
inductive TakesText : String → String → (String → Command) → Prop
  | entity : TakesText "entity" "entity <name>" .entity
  | select : TakesText "select" "select <field>" fun field => .edit (.select field)
  | deselect : TakesText "deselect" "deselect <field>" fun field => .edit (.deselect field)
  | unfilter : TakesText "unfilter" "unfilter <key>" fun name => .edit (.eraseWireName name)

/-- The forms of a field and one operand. -/
inductive TakesPair : String → (Option String → Option String → CriterionForm) → Prop
  | equals : TakesPair "eq" .equals
  | like : TakesPair "like" .like
  | subquery : TakesPair "sub" .subquery

/-- The commands of one count, each with its usage. -/
inductive TakesCount : String → String → (UInt32 → Command) → Prop
  | page : TakesCount "page" "page <n>" fun n => .edit (.page n)
  | size : TakesCount "size" "size <n>" fun n => .edit (.size n)

/-- The names of all commands, and what each makes of the trimmed text behind its name. -/
inductive Reads : String → (List Char → Except CommandError Command) → Prop
  | bare {name : String} {c : Command} (isBare : IsBare name c) : Reads name fun _ => .ok c
  | text {name usage : String} {f : String → Command} (takes : TakesText name usage f) :
      Reads name fun rest => (operand usage rest).map f
  | pair {name : String} {form : Option String → Option String → CriterionForm}
      (takes : TakesPair name form) :
      Reads name fun rest =>
        .ok (.edit (.form (form (fieldAndOperand rest).1 (fieldAndOperand rest).2)))
  | count {name usage : String} {f : UInt32 → Command} (takes : TakesCount name usage f) :
      Reads name fun rest => (Command.count usage rest).map f
  | range : Reads "between" fun rest => .ok (.edit (.form (rangeForm rest)))
  | projection : Reads "fields" fun rest => .ok (.edit (.project (fieldList rest)))
  | sortString : Reads "legacy" fun rest => .ok (.edit (.sortString (String.ofList rest)))
  | sort : Reads "sort" sortCommand
  | distinct : Reads "distinct" distinctCommand
  | preset : Reads "sample" fun rest => do
      match Preset.ofNumber (← operand "sample <1-4>" rest) with
      | .ok p => .ok (.preset p)
      | .error e => .error (.query e)
  | exports : Reads "export" fun rest =>
      if rest = [] then .ok (.exports none)
      else (Command.count "export [size]" rest).map fun size => .exports (some size)
  | download : Reads "download" fun rest =>
      .ok (.download (if rest = [] then none else some (String.ofList rest)))

variable {name : String} {read : List Char → Except CommandError Command}

/-- No command has the empty name, and none a name with blanks. -/
theorem Reads.isWord (reads : Reads name read) : IsWord name.toList := by
  cases reads with
  | bare isBare => cases isBare <;> decide
  | text takes | pair takes | count takes => cases takes <;> decide
  | _ => decide

theorem Reads.ofWord_eq (reads : Reads name read) (rest : List Char) :
    ofWord name.toList rest = read rest := by
  cases reads with
  | bare isBare => cases isBare <;> rfl
  | text takes | pair takes | count takes => cases takes <;> rfl
  | _ => rfl

/-- A word that is in none of the tables is no command. -/
theorem reads_or_unknown (w : List Char) :
    (∃ read, Reads (String.ofList w) read) ∨
      ∀ rest, ofWord w rest = .error (.usage (.unknownCommand (String.ofList w))) := by
  by_cases known : ∃ read, Reads (String.ofList w) read
  · exact .inl known
  · refine .inr fun rest => ?_
    have other {name : String} {read : List Char → Except CommandError Command}
        (reads : Reads name read) : String.ofList w ≠ name := by
      rintro rfl
      exact known ⟨_, reads⟩
    unfold ofWord
    split
    -- Each word of the match but the last one is in a table.
    all_goals first
      | rfl
      | exact absurd ‹_› (other (.bare (by constructor)))
      | exact absurd ‹_› (other (.text (by constructor)))
      | exact absurd ‹_› (other (.pair (by constructor)))
      | exact absurd ‹_› (other (.count (by constructor)))
      | exact absurd ‹_› (other .range)
      | exact absurd ‹_› (other .projection)
      | exact absurd ‹_› (other .sortString)
      | exact absurd ‹_› (other .sort)
      | exact absurd ‹_› (other .distinct)
      | exact absurd ‹_› (other .preset)
      | exact absurd ‹_› (other .exports)
      | exact absurd ‹_› (other .download)

/-! ## Lines -/

variable {s w : List Char} {ws : List (List Char)}

theorem trim_ne_nil_of_spaced (word : IsWord w) (spaced : Spaced (w :: ws) s) : trim s ≠ [] := by
  intro none
  obtain ⟨rest, cut, -⟩ := cutWord_of_spaced word spaced
  rw [none] at cut
  exact word.ne_nil (congrArg Prod.fst cut).symm

/-- A line is read by its first word, with what stands behind that. -/
theorem parse_of_spaced (word : IsWord w) (spaced : Spaced (w :: ws) s) :
    ∃ rest, parse (String.ofList s) = (ofWord w (trim rest)).map some ∧ Spaced ws rest := by
  obtain ⟨rest, cut, inner⟩ := cutWord_of_spaced word spaced
  refine ⟨rest, ?_, inner⟩
  rw [parse, String.toList_ofList, if_neg (trim_ne_nil_of_spaced word spaced), cut]

/-- A line with the name of a command is read as this command is. -/
theorem Reads.parse_eq (reads : Reads name read) (spaced : Spaced (name.toList :: ws) s) :
    ∃ rest, parse (String.ofList s) = (read (trim rest)).map some ∧ Spaced ws rest := by
  obtain ⟨rest, parsed, inner⟩ := parse_of_spaced reads.isWord spaced
  exact ⟨rest, reads.ofWord_eq _ ▸ parsed, inner⟩

/-- A line of given words is read by the first of them, with the others behind it. -/
theorem parse_of_words (cut : words s = w :: ws) :
    ∃ rest, IsTrimmed rest ∧ words rest = ws ∧
      parse (String.ofList s) = (ofWord w rest).map some := by
  obtain ⟨rest, first, trimmed, inner⟩ :=
    cutWord_of_words (isTrimmed_trim s) ((words_trim s).trans cut)
  have filled : trim s ≠ [] := by
    intro none
    rw [← words_trim, none] at cut
    cases cut
  refine ⟨rest, trimmed, inner, ?_⟩
  rw [parse, String.toList_ofList, if_neg filled, first]

theorem Reads.parse_of_words (reads : Reads name read) (cut : words s = name.toList :: ws) :
    ∃ rest, IsTrimmed rest ∧ words rest = ws ∧
      parse (String.ofList s) = (read rest).map some := by
  obtain ⟨rest, trimmed, inner, parsed⟩ := Command.parse_of_words cut
  exact ⟨rest, trimmed, inner, reads.ofWord_eq _ ▸ parsed⟩

/-- A line of given words is read as the command that the first of them names, if it names one. -/
theorem reads_or_unknown_of_words (cut : words s = w :: ws) :
    (∃ read rest, Reads (String.ofList w) read ∧ IsTrimmed rest ∧ words rest = ws ∧
      parse (String.ofList s) = (read rest).map some) ∨
    parse (String.ofList s) = .error (.usage (.unknownCommand (String.ofList w))) := by
  obtain ⟨rest, trimmed, inner, parsed⟩ := parse_of_words cut
  rcases reads_or_unknown w with ⟨read, reads⟩ | unknown
  · refine .inl ⟨read, rest, reads, trimmed, inner, ?_⟩
    rw [parsed, ← reads.ofWord_eq, String.toList_ofList]
  · exact .inr (by rw [parsed, unknown, Except.map])

/-- A line asks for nothing exactly if it has no words. -/
theorem parse_eq_ok_none_iff : parse (String.ofList s) = .ok none ↔ words s = [] := by
  cases cut : words s with
  | nil =>
    have blank := (words_eq_iff.mp cut).1.trim_eq_nil
    rw [parse, String.toList_ofList, if_pos blank]
    exact iff_of_true rfl rfl
  | cons w ws =>
    obtain ⟨rest, -, -, parsed⟩ := parse_of_words cut
    rw [parsed]
    cases ofWord w rest <;> exact iff_of_false nofun nofun

/-- The words of a field and a text behind it, each of which may be missing. -/
inductive IsFieldAndText : List (List Char) → Option String → Option String → Prop
  | nothing : IsFieldAndText [] none none
  | field (w : List Char) : IsFieldAndText [w] (some (String.ofList w)) none
  | both (w : List Char) {ws : List (List Char)} {t : String} (filled : ws ≠ [])
      (cut : words t.toList = ws) : IsFieldAndText (w :: ws) (some (String.ofList w)) (some t)

theorem isFieldAndText_fieldAndOperand (trimmed : IsTrimmed s) :
    IsFieldAndText (words s) (fieldAndOperand s).1 (fieldAndOperand s).2 := by
  cases every : words s with
  | nil =>
    rw [trimmed.eq_nil_of_words every]
    exact .nothing
  | cons w ws =>
    obtain ⟨rest, cut, trimmed', rfl⟩ := cutWord_of_words trimmed every
    have some_char : s ≠ [] := by
      rintro rfl
      cases every
    rw [fieldAndOperand, cut]
    simp only [if_neg some_char]
    by_cases none : rest = []
    · rw [if_pos none, none]
      exact .field w
    · rw [if_neg none]
      exact .both w (fun missing => none (trimmed'.eq_nil_of_words missing))
        (congrArg words String.toList_ofList)

end EntityQuery.Shell.Command
