import EntityQuery.Proofs.Except
import EntityQuery.Proofs.Scalar
import EntityQuery.Proofs.Shell.FirstWord

/-!
# The grammar of lines

The words of a line are those of a command, which are its name and its operands,
or the line is refused.  Some commands do not look at what stands behind them, and
so a line with more words is still read as one of these.

## Main Definitions

* `Shell.Command.Spells`: the words of a command.
* `Shell.Command.IgnoresRest`: the commands with which any more words may stand.
* `Shell.Command.Accounts`, `Shell.Command.Overlooks`: a line with no other words
  than those of a command, and one with more.

## Main Statements

* `Shell.Command.Reads.accounts`: what is read behind a name.
* `Shell.performText_words`: what the shell makes of the words of a line.

## Design Notes

An operand of words is given by its words only: the blanks between them are kept,
as they stand.
-/

namespace EntityQuery.Shell

open Text

namespace Command

/-! ## The grammar -/

/-- The commands that do not look at what stands behind them. -/
inductive IgnoresRest : List String → List (List Char) → Command → Prop
  | bare {name : String} {c : Command} (isBare : IsBare name c) : IgnoresRest [name] [] c
  | addSort : IgnoresRest ["sort", "add"] [] .addSort
  | eraseSort {w : List Char} {i : Nat} (number : Decimal.scanNatural? UInt64.size w = some i) :
      IgnoresRest ["sort", "rm"] [w] (.edit (.eraseSort i))
  | range (f lo hi : List Char) :
      IgnoresRest ["between"] [f, lo, hi]
        (.edit (.form (.between (some (String.ofList f)) (some (String.ofList lo))
          (some (String.ofList hi)))))

/-- The words of a command: those of its name, and those of its operands. -/
inductive Spells : List String → List (List Char) → Command → Prop
  | ignoring {name : List String} {operands : List (List Char)} {c : Command}
      (ignores : IgnoresRest name operands c) : Spells name operands c
  | text {name usage : String} {f : String → Command} {ws : List (List Char)} {t : String}
      (takes : TakesText name usage f) (filled : ws ≠ []) (cut : words t.toList = ws) :
      Spells [name] ws (f t)
  | pair {name : String} {form : Option String → Option String → CriterionForm}
      {ws : List (List Char)} {field operand : Option String} (takes : TakesPair name form)
      (parts : IsFieldAndText ws field operand) :
      Spells [name] ws (.edit (.form (form field operand)))
  /-- Of a range one part at least is missing. -/
  | openRange {ws : List (List Char)} (few : ws.length < 3) :
      Spells ["between"] ws (.edit (.form (.between (ws[0]?.map String.ofList)
        (ws[1]?.map String.ofList) (ws[2]?.map String.ofList))))
  /-- The words of the fields are those of the line, cut at the commas. -/
  | projection {ws : List (List Char)} {fields : List String}
      (cut : fields.flatMap (words ·.toList) = ws.flatMap (runs (· == ','))) :
      Spells ["fields"] ws (.edit (.project fields))
  | sortString {ws : List (List Char)} {t : String} (cut : words t.toList = ws) :
      Spells ["legacy"] ws (.edit (.sortString t))
  | sortField {w : List Char} {i : Nat} {ws : List (List Char)} {t : String}
      (number : Decimal.scanNatural? UInt64.size w = some i) (filled : ws ≠ [])
      (cut : words t.toList = ws) : Spells ["sort", "field"] (w :: ws) (.edit (.sortField i t))
  | sortDirection {w d : List Char} {i : Nat} {direction : Direction}
      (number : Decimal.scanNatural? UInt64.size w = some i)
      (named : Direction.ofName (String.ofList d) = .ok direction) :
      Spells ["sort", "dir"] [w, d] (.edit (.sortDirection i direction))
  | count {name usage : String} {f : UInt32 → Command} {w : List Char} {n : Nat}
      (takes : TakesCount name usage f) (number : Decimal.scanNatural? UInt32.size w = some n) :
      Spells [name] [w] (f n.toUInt32)
  | preset {w : List Char} {p : Preset} (number : Preset.ofNumber (String.ofList w) = .ok p) :
      Spells ["sample"] [w] (.preset p)
  | flipDistinct : Spells ["distinct"] [] (.distinct none)
  | distinct {w : String} {b : Bool}
      (flag : (w, b) ∈ [("on", true), ("true", true), ("off", false), ("false", false)]) :
      Spells ["distinct"] [w.toList] (.distinct (some b))
  | exportAll : Spells ["export"] [] (.exports none)
  | exports {w : List Char} {n : Nat} (number : Decimal.scanNatural? UInt32.size w = some n) :
      Spells ["export"] [w] (.exports (some n.toUInt32))
  | downloadHere : Spells ["download"] [] (.download none)
  | download {ws : List (List Char)} {t : String} (filled : ws ≠ []) (cut : words t.toList = ws) :
      Spells ["download"] ws (.download (some t))

/-- The words are those of the command, and no others. -/
def Accounts (c : Command) (ws : List (List Char)) : Prop :=
  ∃ name operands, ws = name.map String.toList ++ operands ∧ Spells name operands c

/-- Behind the words of the command stand others, which it does not look at. -/
def Overlooks (c : Command) (ws : List (List Char)) : Prop :=
  ∃ name operands surplus, ws = name.map String.toList ++ operands ++ surplus ∧ surplus ≠ [] ∧
    IgnoresRest name operands c

variable {name : List String} {operands surplus ws : List (List Char)} {c : Command}
variable {s w rest : List Char}

theorem Spells.accounts (spells : Spells name operands c) :
    c.Accounts (name.map String.toList ++ operands) :=
  ⟨name, operands, rfl, spells⟩

theorem IgnoresRest.accounts_or_overlooks (ignores : IgnoresRest name operands c)
    (surplus : List (List Char)) :
    c.Accounts (name.map String.toList ++ operands ++ surplus) ∨
      c.Overlooks (name.map String.toList ++ operands ++ surplus) := by
  cases surplus with
  | nil => exact .inl ⟨name, operands, List.append_nil _, .ignoring ignores⟩
  | cons w ws => exact .inr ⟨name, operands, w :: ws, rfl, List.cons_ne_nil w ws, ignores⟩

/-- A line with words that are overlooked has the words of no command. -/
theorem Overlooks.not_accounts (overlooks : c.Overlooks ws) (c' : Command) : ¬c'.Accounts ws := by
  rintro ⟨name', operands', whole, spells⟩
  obtain ⟨name, operands, surplus, rfl, more, ignores⟩ := overlooks
  obtain ⟨w, surplus, rfl⟩ := List.exists_cons_of_ne_nil more
  -- The names are different, or the numbers of the words are.
  cases spells with
  | ignoring ignores' =>
    cases ignores with
    | bare isBare =>
      cases ignores' with
      | bare => simp at whole
      | _ => cases isBare <;> simp at whole
    | _ =>
      cases ignores' with
      | bare isBare => cases isBare <;> simp at whole
      | _ => simp at whole
  | openRange few =>
    cases ignores with
    | bare isBare => cases isBare <;> simp at whole
    | range f lo hi =>
      have same := congrArg List.length whole
      simp only [List.length_append, List.length_cons, List.length_map] at same
      omega
    | _ => simp at whole
  | text takes | pair takes | count takes =>
    cases ignores with
    | bare isBare => cases takes <;> cases isBare <;> simp at whole
    | _ => cases takes <;> simp at whole
  | _ =>
    cases ignores with
    | bare isBare => cases isBare <;> simp at whole
    | _ => simp at whole

/-! ## Operands -/

theorem operand_of_ne_nil (filled : rest ≠ []) (usage : String) :
    operand usage rest = .ok (String.ofList rest) :=
  if_neg filled

theorem operand_eq_ok_iff {usage t : String} :
    operand usage rest = .ok t ↔ rest ≠ [] ∧ String.ofList rest = t := by
  unfold operand
  split <;> simp [*]

theorem count_eq_ok_iff {usage : String} {n : UInt32} :
    Command.count usage rest = .ok n ↔
      ∃ k, Decimal.scanNatural? UInt32.size rest = some k ∧ k.toUInt32 = n := by
  rw [Command.count, Except.map_eq_ok_iff, number]
  cases Decimal.scanNatural? UInt32.size rest <;> simp

theorem position_eq_ok_iff {usage : String} {i : Nat} :
    position usage rest = .ok i ↔ Decimal.scanNatural? UInt64.size rest = some i := by
  rw [position, number]
  cases Decimal.scanNatural? UInt64.size rest <;> simp

/-- A number is one word. -/
theorem isWord_of_scanNatural? {bound n : Nat} (number : Decimal.scanNatural? bound w = some n) :
    IsWord w := by
  obtain ⟨sign, ds, rfl, signs, digits, -⟩ := Decimal.spells_of_scanNatural? number
  refine ⟨List.append_ne_nil_of_right_ne_nil _ digits.ne_nil, ?_⟩
  rw [List.forall_mem_append]
  exact ⟨fun c mem => Scalar.solid_of_isCharacter (signs.characters c mem),
    fun c mem => Scalar.solid_of_isCharacter (.inl (digits.all c mem))⟩

theorem isWord_of_ofNumber {p : Preset} (trimmed : IsTrimmed w)
    (number : Preset.ofNumber (String.ofList w) = .ok p) : IsWord w := by
  unfold Preset.ofNumber at number
  split at number
  next p found =>
    have same : toString p.number = Text.trimmed (String.ofList w) := by
      simpa using List.find?_some found
    rw [Text.trimmed, String.toList_ofList, trimmed.trim_eq] at same
    have spelled : w = (toString p.number).toList := by rw [same, String.toList_ofList]
    rw [spelled]
    cases p <;> decide
  next => cases number

theorem isWord_of_ofName {d : Direction} (named : Direction.ofName (String.ofList w) = .ok d) :
    IsWord w := by
  have spelled : w.map Char.toLower = "asc".toList ∨ w.map Char.toLower = "desc".toList := by
    simp only [Direction.ofName, lowerAscii, String.toList_ofList] at named
    split_ifs at named with up down
    · exact .inl (by rw [← up, String.toList_ofList])
    · exact .inr (by rw [← down, String.toList_ofList])
  have word : IsWord (w.map Char.toLower) := by rcases spelled with h | h <;> rw [h] <;> decide
  exact ⟨by simpa using word.ne_nil, solid_of_toLower word.solid⟩

/-- Empty texts have no words. -/
theorem flatMap_words_filter (texts : List (List Char)) :
    (texts.filter (· ≠ [])).flatMap words = texts.flatMap words := by
  induction texts with
  | nil => rfl
  | cons t texts ih => by_cases none : t = [] <;> simp [none, ← ih]

/-- The fields of a list have its words, cut at the commas. -/
theorem flatMap_words_fieldList (rest : List Char) :
    (fieldList rest).flatMap (words ·.toList) = (words rest).flatMap (runs (· == ',')) := by
  have eq : words = runs isBlank := funext words_eq_runs
  calc (fieldList rest).flatMap (words ·.toList)
      = (((splitOn (· == ',') rest).map trim).filter (· ≠ [])).flatMap words := by
        simp only [fieldList, List.flatMap_map, String.toList_ofList]
    _ = (splitOn (· == ',') rest).flatMap words := by
        simp only [flatMap_words_filter, List.flatMap_map, words_trim]
    _ = (runs (· == ',') rest).flatMap words := (flatMap_words_filter _).symm
    _ = runs (fun c => c == ',' || isBlank c) rest := by rw [eq, flatMap_runs]
    _ = runs (fun c => isBlank c || c == ',') rest := by simp only [Bool.or_comm]
    _ = (words rest).flatMap (runs (· == ',')) := by rw [eq, flatMap_runs]

/-! ## Accepted lines -/

theorem accounts_of_distinctCommand (accepted : distinctCommand rest = .ok c) :
    c.Accounts ("distinct".toList :: words rest) := by
  have spelled {w : String} (same : String.ofList rest = w) : rest = w.toList := by
    rw [← same, String.toList_ofList]
  have turned {w : String} {b : Bool} (word : IsWord w.toList) (same : String.ofList rest = w)
      (flag : (w, b) ∈ [("on", true), ("true", true), ("off", false), ("false", false)]) :
      (Command.distinct (some b)).Accounts ("distinct".toList :: words rest) := by
    rw [spelled same, word.words_eq]
    exact (Spells.distinct flag).accounts
  unfold distinctCommand at accepted
  split at accepted
  next none =>
    cases accepted
    rw [spelled none]
    exact Spells.flipDistinct.accounts
  next same => cases accepted; exact turned (by decide) same (by decide)
  next same => cases accepted; exact turned (by decide) same (by decide)
  next same => cases accepted; exact turned (by decide) same (by decide)
  next same => cases accepted; exact turned (by decide) same (by decide)
  next => cases accepted

theorem accounts_of_sortCommand (trimmed : IsTrimmed rest) (accepted : sortCommand rest = .ok c) :
    c.Accounts ("sort".toList :: words rest) ∨ c.Overlooks ("sort".toList :: words rest) := by
  rcases cut : cutWord rest with ⟨action, operands⟩
  rcases cutOperands : cutWord operands with ⟨index, value⟩
  simp only [sortCommand, cut, cutOperands] at accepted
  -- The words before the value are not empty.
  have first {name : String} (named : String.ofList action = name) (filled : name ≠ "") :
      IsTrimmed operands ∧ words rest = name.toList :: words operands := by
    subst named
    rw [String.toList_ofList]
    exact words_eq_cons_of_cutWord trimmed cut fun none => filled (congrArg String.ofList none)
  have second {i : Nat} (trimmed : IsTrimmed operands)
      (number : Decimal.scanNatural? UInt64.size index = some i) :
      IsTrimmed value ∧ words operands = index :: words value :=
    words_eq_cons_of_cutWord trimmed cutOperands (isWord_of_scanNatural? number).ne_nil
  split at accepted
  next named =>
    cases accepted
    rw [(first named (by decide)).2]
    exact IgnoresRest.addSort.accounts_or_overlooks (words operands)
  next named =>
    obtain ⟨i, number, accepted⟩ := Except.bind_eq_ok_iff.mp accepted
    obtain ⟨t, given, accepted⟩ := Except.bind_eq_ok_iff.mp accepted
    obtain ⟨filled, rfl⟩ := operand_eq_ok_iff.mp given
    have number := position_eq_ok_iff.mp number
    cases accepted
    obtain ⟨trimmed, cutFirst⟩ := first named (by decide)
    obtain ⟨trimmed, cutSecond⟩ := second trimmed number
    rw [cutFirst, cutSecond]
    exact .inl (Spells.sortField number (fun none => filled (trimmed.eq_nil_of_words none))
      (congrArg words String.toList_ofList)).accounts
  next named =>
    obtain ⟨i, number, accepted⟩ := Except.bind_eq_ok_iff.mp accepted
    have number := position_eq_ok_iff.mp number
    split at accepted
    next direction read =>
      cases accepted
      obtain ⟨trimmed, cutFirst⟩ := first named (by decide)
      rw [cutFirst, (second trimmed number).2, (isWord_of_ofName read).words_eq]
      exact .inl (Spells.sortDirection number read).accounts
    next => cases accepted
  next named =>
    obtain ⟨i, number, accepted⟩ := Except.bind_eq_ok_iff.mp accepted
    have number := position_eq_ok_iff.mp number
    cases accepted
    obtain ⟨trimmed, cutFirst⟩ := first named (by decide)
    rw [cutFirst, (second trimmed number).2]
    exact (IgnoresRest.eraseSort number).accounts_or_overlooks (words value)
  next => cases accepted

theorem Reads.accounts {name : String} {read : List Char → Except CommandError Command}
    (reads : Reads name read) (trimmed : IsTrimmed rest) (accepted : read rest = .ok c) :
    c.Accounts (name.toList :: words rest) ∨ c.Overlooks (name.toList :: words rest) := by
  have filled (some_char : rest ≠ []) : words rest ≠ [] :=
    fun none => some_char (trimmed.eq_nil_of_words none)
  have same : words (String.ofList rest).toList = words rest := congrArg words String.toList_ofList
  cases reads with
  | bare isBare =>
    cases accepted
    exact (IgnoresRest.bare isBare).accounts_or_overlooks (words rest)
  | text takes =>
    obtain ⟨t, given, rfl⟩ := Except.map_eq_ok_iff.mp accepted
    obtain ⟨some_char, rfl⟩ := operand_eq_ok_iff.mp given
    exact .inl (Spells.text takes (filled some_char) same).accounts
  | pair takes =>
    cases accepted
    exact .inl (Spells.pair takes (isFieldAndText_fieldAndOperand trimmed)).accounts
  | count takes =>
    obtain ⟨n, given, rfl⟩ := Except.map_eq_ok_iff.mp accepted
    obtain ⟨k, number, rfl⟩ := count_eq_ok_iff.mp given
    rw [(isWord_of_scanNatural? number).words_eq]
    exact .inl (Spells.count takes number).accounts
  | range =>
    cases accepted
    rcases Nat.lt_or_ge (words rest).length 3 with few | many
    · rw [rangeForm, List.getElem?_map, List.getElem?_map, List.getElem?_map]
      exact .inl (Spells.openRange few).accounts
    · match every : words rest with
      | f :: lo :: hi :: surplus =>
        rw [rangeForm, every]
        exact (IgnoresRest.range f lo hi).accounts_or_overlooks surplus
      | [] | [_] | [_, _] => simp [every] at many
  | projection =>
    cases accepted
    exact .inl (Spells.projection (flatMap_words_fieldList rest)).accounts
  | sortString =>
    cases accepted
    exact .inl (Spells.sortString same).accounts
  | sort => exact accounts_of_sortCommand trimmed accepted
  | distinct => exact .inl (accounts_of_distinctCommand accepted)
  | preset =>
    obtain ⟨t, given, accepted⟩ := Except.bind_eq_ok_iff.mp accepted
    obtain ⟨-, rfl⟩ := operand_eq_ok_iff.mp given
    split at accepted
    next p number =>
      cases accepted
      rw [(isWord_of_ofNumber trimmed number).words_eq]
      exact .inl (Spells.preset number).accounts
    next => cases accepted
  | exports =>
    beta_reduce at accepted
    split_ifs at accepted with none
    · cases accepted
      rw [none]
      exact .inl Spells.exportAll.accounts
    · obtain ⟨n, given, rfl⟩ := Except.map_eq_ok_iff.mp accepted
      obtain ⟨k, number, rfl⟩ := count_eq_ok_iff.mp given
      rw [(isWord_of_scanNatural? number).words_eq]
      exact .inl (Spells.exports number).accounts
  | download =>
    cases accepted
    split_ifs with none
    · rw [none]
      exact .inl Spells.downloadHere.accounts
    · exact .inl (Spells.download (filled none) same).accounts

theorem cutWord_of_two_words (action : String) (trimmed : IsTrimmed rest)
    (cut : words rest = action.toList :: w :: ws) :
    ∃ value, IsTrimmed value ∧ words value = ws ∧ ∃ operands,
      cutWord rest = (action.toList, operands) ∧ cutWord operands = (w, value) := by
  obtain ⟨operands, first, trimmed, inner⟩ := cutWord_of_words trimmed cut
  obtain ⟨value, second, trimmed, inner⟩ := cutWord_of_words trimmed inner
  exact ⟨value, trimmed, inner, operands, first, second⟩

/-- A command that ignores what stands behind it is read, whatever this is. -/
theorem IgnoresRest.parse_eq (ignores : IgnoresRest name operands c)
    (cut : words s = name.map String.toList ++ operands ++ surplus) :
    parse (String.ofList s) = .ok (some c) := by
  cases ignores with
  | bare isBare =>
    obtain ⟨rest, -, -, parsed⟩ := (Reads.bare isBare).parse_of_words cut
    exact parsed
  | addSort =>
    obtain ⟨rest, trimmed, inner, parsed⟩ := Reads.sort.parse_of_words cut
    obtain ⟨operands, first, -⟩ := cutWord_of_words trimmed inner
    rw [parsed, sortCommand, first]
    rfl
  | eraseSort number =>
    obtain ⟨rest, trimmed, inner, parsed⟩ := Reads.sort.parse_of_words cut
    obtain ⟨value, -, -, operands, first, second⟩ := cutWord_of_two_words "rm" trimmed inner
    rw [parsed]
    simp only [sortCommand, first, second, position_eq_ok_iff.mpr number]
    rfl
  | range f lo hi =>
    obtain ⟨rest, trimmed, inner, parsed⟩ := Reads.range.parse_of_words cut
    rw [parsed, rangeForm, inner]
    rfl

/-- A line with the words of a command and no others is accepted. -/
theorem Spells.exists_parse_eq (spells : Spells name operands c)
    (cut : words s = name.map String.toList ++ operands) :
    ∃ c', parse (String.ofList s) = .ok (some c') := by
  have of_read {name : String} {read : List Char → Except CommandError Command}
      {ws : List (List Char)} (reads : Reads name read) (cut : words s = name.toList :: ws)
      (accepts : ∀ rest, IsTrimmed rest → words rest = ws → ∃ c', read rest = .ok c') :
      ∃ c', parse (String.ofList s) = .ok (some c') := by
    obtain ⟨rest, trimmed, inner, parsed⟩ := reads.parse_of_words cut
    obtain ⟨c', accepted⟩ := accepts rest trimmed inner
    exact ⟨c', by rw [parsed, accepted]; rfl⟩
  have some_char {rest : List Char} {ws : List (List Char)} (filled : ws ≠ [])
      (inner : words rest = ws) : rest ≠ [] := by
    rintro rfl
    exact filled inner.symm
  cases spells with
  | ignoring ignores =>
    rw [← List.append_nil (_ ++ _)] at cut
    exact ⟨c, ignores.parse_eq cut⟩
  | text takes filled =>
    refine of_read (.text takes) cut fun rest _ inner => ?_
    rw [operand_of_ne_nil (some_char filled inner)]
    exact ⟨_, rfl⟩
  | pair takes => exact of_read (.pair takes) cut fun rest _ _ => ⟨_, rfl⟩
  | openRange => exact of_read .range cut fun rest _ _ => ⟨_, rfl⟩
  | projection => exact of_read .projection cut fun rest _ _ => ⟨_, rfl⟩
  | sortString => exact of_read .sortString cut fun rest _ _ => ⟨_, rfl⟩
  | sortField number filled =>
    refine of_read .sort cut fun rest trimmed inner => ?_
    obtain ⟨value, -, inner, operands, first, second⟩ :=
      cutWord_of_two_words "field" trimmed inner
    simp only [sortCommand, first, second, position_eq_ok_iff.mpr number,
      operand_of_ne_nil (some_char filled inner)]
    exact ⟨_, rfl⟩
  | sortDirection number named =>
    refine of_read .sort cut fun rest trimmed inner => ?_
    obtain ⟨value, trimmed, inner, operands, first, second⟩ :=
      cutWord_of_two_words "dir" trimmed inner
    rw [← trimmed.eq_of_words inner] at named
    simp only [sortCommand, first, second, position_eq_ok_iff.mpr number, named]
    exact ⟨_, rfl⟩
  | count takes number =>
    refine of_read (.count takes) cut fun rest trimmed inner => ?_
    rw [← trimmed.eq_of_words inner] at number
    exact ⟨_, Except.map_eq_ok_iff.mpr ⟨_, count_eq_ok_iff.mpr ⟨_, number, rfl⟩, rfl⟩⟩
  | @preset _ p number =>
    refine of_read .preset cut fun rest trimmed inner => ?_
    rw [← trimmed.eq_of_words inner] at number
    have given := operand_of_ne_nil (some_char (List.cons_ne_nil _ _) inner) "sample <1-4>"
    refine ⟨.preset p, Except.bind_eq_ok_iff.mpr ⟨_, given, ?_⟩⟩
    rw [number]
  | flipDistinct =>
    refine of_read .distinct cut fun rest trimmed inner => ?_
    rw [trimmed.eq_nil_of_words inner]
    exact ⟨_, rfl⟩
  | distinct flag =>
    refine of_read .distinct cut fun rest trimmed inner => ?_
    rw [trimmed.eq_of_words inner]
    simp only [List.mem_cons, Prod.mk.injEq, List.not_mem_nil, or_false] at flag
    rcases flag with ⟨rfl, -⟩ | ⟨rfl, -⟩ | ⟨rfl, -⟩ | ⟨rfl, -⟩ <;> exact ⟨_, rfl⟩
  | exportAll =>
    refine of_read .exports cut fun rest trimmed inner => ?_
    rw [trimmed.eq_nil_of_words inner]
    exact ⟨_, rfl⟩
  | exports number =>
    refine of_read .exports cut fun rest trimmed inner => ?_
    rw [← trimmed.eq_of_words inner] at number
    rw [if_neg (some_char (List.cons_ne_nil _ _) inner)]
    exact ⟨_, Except.map_eq_ok_iff.mpr ⟨_, count_eq_ok_iff.mpr ⟨_, number, rfl⟩, rfl⟩⟩
  | downloadHere | download => exact of_read .download cut fun rest _ _ => ⟨_, rfl⟩

/-! ## Refused lines -/

variable {usage : String} {e : CommandError}

/-- A line is refused for what the command expects. -/
def IsUsage (e : CommandError) : Prop :=
  ∃ fault, e = .usage fault

theorem isUsage_of_operand {usage : String} (refused : operand usage rest = .error e) :
    IsUsage e := by
  unfold operand at refused
  split at refused
  · cases refused
    exact ⟨_, rfl⟩
  · cases refused

theorem isUsage_of_number {bound : Nat} (refused : number bound usage rest = .error e) :
    IsUsage e := by
  unfold number at refused
  split at refused
  · cases refused
  · cases refused
    exact ⟨_, rfl⟩

theorem isUsage_of_count (refused : Command.count usage rest = .error e) : IsUsage e :=
  isUsage_of_number (Except.map_eq_error_iff.mp refused)

theorem isUsage_or_query_of_sortCommand (trimmed : IsTrimmed rest)
    (refused : sortCommand rest = .error e) :
    IsUsage e ∨ (∃ fault, e = .query fault) ∧ ["dir".toList] <+: words rest := by
  rcases cut : cutWord rest with ⟨action, operands⟩
  simp only [sortCommand, cut] at refused
  split at refused
  next => cases refused
  next =>
    rcases Except.bind_eq_error_iff.mp refused with other | ⟨i, -, refused⟩
    · exact .inl (isUsage_of_number other)
    rcases Except.bind_eq_error_iff.mp refused with missing | ⟨t, -, refused⟩
    · exact .inl (isUsage_of_operand missing)
    · cases refused
  next named =>
    rcases Except.bind_eq_error_iff.mp refused with other | ⟨i, -, refused⟩
    · exact .inl (isUsage_of_number other)
    split at refused
    · cases refused
    · cases refused
      have first : action = "dir".toList := by rw [← named, String.toList_ofList]
      have every := (words_eq_cons_of_cutWord trimmed cut (by rw [first]; decide)).2
      exact .inr ⟨⟨_, rfl⟩, words operands, by rw [every, first]; rfl⟩
  next =>
    rcases Except.bind_eq_error_iff.mp refused with other | ⟨i, -, refused⟩
    · exact .inl (isUsage_of_number other)
    · cases refused
  next =>
    cases refused
    exact .inl ⟨_, rfl⟩

/-- The words that name a preset or a direction are refused as such. -/
theorem Reads.isUsage_or_query {name : String} {read : List Char → Except CommandError Command}
    (reads : Reads name read) (trimmed : IsTrimmed rest) (refused : read rest = .error e) :
    IsUsage e ∨ (∃ fault, e = .query fault) ∧
      (name = "sample" ∨ name = "sort" ∧ ["dir".toList] <+: words rest) := by
  cases reads with
  | text => exact .inl (isUsage_of_operand (Except.map_eq_error_iff.mp refused))
  | count => exact .inl (isUsage_of_count (Except.map_eq_error_iff.mp refused))
  | bare | pair | range | projection | sortString | download => cases refused
  | distinct =>
    unfold distinctCommand at refused
    split at refused <;> cases refused
    exact .inl ⟨_, rfl⟩
  | exports =>
    beta_reduce at refused
    split_ifs at refused with none
    exact .inl (isUsage_of_count (Except.map_eq_error_iff.mp refused))
  | preset =>
    rcases Except.bind_eq_error_iff.mp refused with missing | ⟨t, -, refused⟩
    · exact .inl (isUsage_of_operand missing)
    · split at refused <;> cases refused
      exact .inr ⟨⟨_, rfl⟩, .inl rfl⟩
  | sort =>
    rcases isUsage_or_query_of_sortCommand trimmed refused with usage | ⟨fault, first⟩
    · exact .inl usage
    · exact .inr ⟨fault, .inr ⟨rfl, first⟩⟩

/-! ## Lines -/

/-- The words of an accepted line are those of its command, or it overlooks some. -/
theorem accounts_or_overlooks_of_parse (parsed : parse (String.ofList s) = .ok (some c)) :
    c.Accounts (words s) ∨ c.Overlooks (words s) := by
  cases cut : words s with
  | nil =>
    rw [parse_eq_ok_none_iff.mpr cut] at parsed
    cases parsed
  | cons w ws =>
    rcases reads_or_unknown_of_words cut with ⟨read, rest, reads, trimmed, rfl, known⟩ | unknown
    · obtain ⟨c', accepted, same⟩ := Except.map_eq_ok_iff.mp (known.symm.trans parsed)
      cases same
      rw [← String.toList_ofList (l := w)]
      exact reads.accounts trimmed accepted
    · rw [unknown] at parsed
      cases parsed

theorem isUsage_or_query_of_parse (refused : parse (String.ofList s) = .error e) :
    IsUsage e ∨ (∃ fault, e = .query fault) ∧
      (["sample".toList] <+: words s ∨ ["sort".toList, "dir".toList] <+: words s) := by
  cases cut : words s with
  | nil =>
    rw [parse_eq_ok_none_iff.mpr cut] at refused
    cases refused
  | cons w ws =>
    rcases reads_or_unknown_of_words cut with ⟨read, rest, reads, trimmed, rfl, known⟩ | unknown
    · have refused := Except.map_eq_error_iff.mp (known.symm.trans refused)
      rcases reads.isUsage_or_query trimmed refused with usage | ⟨fault, first⟩
      · exact .inl usage
      · refine .inr ⟨fault, ?_⟩
        rw [← String.toList_ofList (l := w)]
        rcases first with named | ⟨named, second⟩
        · exact .inl (by rw [named]; exact List.prefix_append [_] _)
        · exact .inr (by rw [named]; exact List.prefix_cons_inj _ |>.mpr second)
    · rw [unknown] at refused
      cases refused
      exact .inl ⟨_, rfl⟩

end Command

open Command

/-- What the shell makes of the words of a line.  They are those of the command that is accepted, or
they are those of no command, and more of them stand behind the accepted one than it looks at.  Of
the other lines none is accepted: what is expected is printed, and the session is as it was. -/
theorem performText_words {m : Type → Type} [Monad m] (host : Host m) (service : Service m)
    (line : String) (p : Progress) :
    let ws := words line.toList
    (∀ c, parse line = .ok (some c) → c.Accounts ws ∨ c.Overlooks ws) ∧
    ((∃ c : Command, c.Accounts ws) → ∃ c, parse line = .ok (some c)) ∧
    (∀ c : Command, c.Overlooks ws →
      parse line = .ok (some c) ∧ ∀ c' : Command, ¬c'.Accounts ws) ∧
    (ws ≠ [] → (∀ c : Command, ¬c.Accounts ws ∧ ¬c.Overlooks ws) →
      ∃ e, parse line = .error e ∧
        (IsUsage e ∨ (∃ fault, e = .query fault) ∧
          (["sample".toList] <+: ws ∨ ["sort".toList, "dir".toList] <+: ws)) ∧
        performText host service line p = do
          host.print e.message
          pure p) := by
  obtain ⟨s, rfl⟩ : ∃ s, line = String.ofList s := ⟨_, String.ofList_toList.symm⟩
  rw [String.toList_ofList]
  refine ⟨fun c parsed => accounts_or_overlooks_of_parse parsed, ?_, ?_, fun some_word other => ?_⟩
  · rintro ⟨c, name, operands, cut, spells⟩
    exact spells.exists_parse_eq cut
  · refine fun c overlooks => ⟨?_, overlooks.not_accounts⟩
    obtain ⟨name, operands, surplus, cut, -, ignores⟩ := overlooks
    exact ignores.parse_eq cut
  · match parsed : parse (String.ofList s) with
    | .error e =>
      refine ⟨e, rfl, isUsage_or_query_of_parse parsed, ?_⟩
      simp only [performText, parsed]
    | .ok none => exact absurd (parse_eq_ok_none_iff.mp parsed) some_word
    | .ok (some c) =>
      exact (accounts_or_overlooks_of_parse parsed).elim (absurd · (other c).1) (absurd · (other c).2)

/-- A word behind the command that takes all criteria away. -/
theorem parse_of_surplus :
    parse "clear name_like" = .ok (some (.edit .clearCriteria)) ∧
      ¬(Command.edit .clearCriteria).Accounts (words "clear name_like".toList) := by
  have overlooks : (Command.edit .clearCriteria).Overlooks (words "clear name_like".toList) :=
    ⟨["clear"], [], ["name_like".toList], by decide +kernel, List.cons_ne_nil _ _, .bare .clear⟩
  exact ⟨by rfl, overlooks.not_accounts _⟩

end EntityQuery.Shell
