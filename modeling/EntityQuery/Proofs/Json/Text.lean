import EntityQuery.Json.Cursor
import EntityQuery.Json.Printer
import Mathlib.Data.List.TakeWhile
import Mathlib.Tactic.SplitIfs

/-!
# Strings and objects read from text

What the printer writes for a string is read back as that string, whatever
characters stand in it, and a control character never stands inside quotes.
An object is read back with its members in their order if its values are.

## Main Definitions

* `Json.Escapes`: how a character may stand inside quotes.
* `Reader.Reads`: a reader answers a value at a cursor and leaves a rest.
* `Reader.ReadsValues`: a reader answers each value of some members.
* `Members.strings`: members whose values are all strings.

## Main Statements

* `Json.visible_of_mem_quoteChars`: no control character stands in a quoted text.
* `Reader.stringBody_reads`: reading a quoted text.
* `Reader.members_reads`: reading an object, given readings of its values.
* `Json.read_strings`: reading an object whose values are all strings.

## Design Notes

A reader bounds its loops by the number of unread characters.  The statements
about loops are therefore for every bound that exceeds the number of rounds.
-/

namespace EntityQuery

/-- Members whose values are all strings. -/
def Members.strings (fields : List (String × String)) : Members :=
  fields.map fun field => (field.1, .string field.2)

namespace Json

/-! ## Escapes -/

/-- The letters that stand for a character behind a backslash. -/
def marks : List (Char × Char) :=
  [('"', '"'), ('\\', '\\'), ('n', '\n'), ('r', '\r'), ('t', '\t'), ('b', '\x08'), ('f', '\x0c')]

/-- How a character stands inside quotes: behind a backslash as a letter or as a number, or as
itself. -/
inductive Escapes : Char → List Char → Prop where
  | marked {mark d : Char} (mem : (mark, d) ∈ marks) : Escapes d ['\\', mark]
  | numbered {d : Char} (control : d.toNat < 0x20) :
    Escapes d ['\\', 'u', '0', '0', Text.lowerHexDigit (d.toNat / 16),
      Text.lowerHexDigit (d.toNat % 16)]
  | plain {d : Char} (notQuote : d ≠ '"') (notBackslash : d ≠ '\\') (visible : 0x20 ≤ d.toNat) :
    Escapes d [d]

theorem escapes_escapeChar (d : Char) : Escapes d (escapeChar d) := by
  have backspace : d.toNat = 0x08 → d = '\x08' := fun back => Char.toNat_inj.mp back
  have feed : d.toNat = 0x0C → d = '\x0c' := fun feed => Char.toNat_inj.mp feed
  unfold escapeChar
  split_ifs with quote backslash newLine carriage tab back form control
  · exact .marked (by simp [quote, marks])
  · exact .marked (by simp [backslash, marks])
  · exact .marked (by simp [newLine, marks])
  · exact .marked (by simp [carriage, marks])
  · exact .marked (by simp [tab, marks])
  · exact .marked (by simp [backspace back, marks])
  · exact .marked (by simp [feed form, marks])
  · exact .numbered control
  · exact .plain quote backslash (Nat.not_lt.mp control)

/-- No character stands inside quotes as a control character. -/
theorem Escapes.visible {d : Char} {text : List Char} (escapes : Escapes d text) :
    ∀ c ∈ text, 0x20 ≤ c.toNat := by
  cases escapes with
  | marked mem =>
    have all : marks.all fun pair => 0x20 ≤ pair.1.toNat := by decide
    have visible := of_decide_eq_true (List.all_eq_true.mp all _ mem)
    simp only [List.forall_mem_cons]
    exact ⟨by decide, visible, nofun⟩
  | numbered control =>
    have digit : ∀ n : Fin 16, 0x20 ≤ (Text.lowerHexDigit n).toNat := by decide
    have high := digit ⟨d.toNat / 16, by omega⟩
    have low := digit ⟨d.toNat % 16, by omega⟩
    simp only [List.forall_mem_cons]
    exact ⟨by decide, by decide, by decide, by decide, high, low, nofun⟩
  | plain _ _ visible => exact List.forall_mem_singleton.mpr visible

theorem visible_of_mem_escape {s : List Char} : ∀ c ∈ escape s, 0x20 ≤ c.toNat := by
  intro c mem
  obtain ⟨d, -, mem⟩ := List.mem_flatMap.mp mem
  exact (escapes_escapeChar d).visible c mem

/-- No control character stands in a quoted text. -/
theorem visible_of_mem_quoteChars {s : String} : ∀ c ∈ quoteChars s, 0x20 ≤ c.toNat := by
  intro c mem
  rw [quoteChars, List.mem_cons, List.mem_append, List.mem_singleton] at mem
  rcases mem with rfl | mem | rfl
  · decide
  · exact visible_of_mem_escape c mem
  · decide

/-! ## Readings -/

theorem Cursor.rest_advance (c : Cursor) {d : Char} {rest : List Char}
    (stands : c.rest = d :: rest) : c.advance.rest = rest := by
  rw [advance, stands]
  dsimp only
  split <;> rfl

theorem Cursor.nesting_advance (c : Cursor) : c.advance.nesting = c.nesting := by
  rw [advance]
  split
  · rfl
  · split <;> rfl

namespace Reader

variable {α β : Type}

/-- The reader answers `a` at the cursor, leaves `rest`, and closes what it opens. -/
def Reads (r : Reader α) (a : α) (c : Cursor) (rest : List Char) : Prop :=
  ∃ after, r c = .ok a after ∧ after.rest = rest ∧ after.nesting = c.nesting

namespace Reads

variable {r : Reader α} {f : α → Reader β} {a : α} {b : β} {c : Cursor} {d : Char}
  {mid rest : List Char}

theorem pure (left : c.rest = rest) : Reads (Pure.pure a) a c rest :=
  ⟨c, rfl, left, rfl⟩

/-- One reader after another. -/
theorem bind (first : Reads r a c mid)
    (second : ∀ c', c'.rest = mid → c'.nesting = c.nesting → Reads (f a) b c' rest) :
    Reads (r >>= f) b c rest := by
  obtain ⟨between, read, left, level⟩ := first
  obtain ⟨after, read', left', level'⟩ := second between left level
  refine ⟨after, ?_, left', level'.trans level⟩
  change EStateM.bind r f c = _
  rw [EStateM.bind, read]
  exact read'

theorem skip (stands : c.rest = d :: rest) : Reads Reader.skip () c rest :=
  ⟨c.advance, rfl, c.rest_advance stands, c.nesting_advance⟩

/-- A reader that looks at the cursor. -/
theorem get {f : Cursor → Reader β} (next : Reads (f c) b c rest) :
    Reads (MonadState.get >>= f) b c rest :=
  next

/-- A reader that looks at the next character. -/
theorem peek {f : Option Char → Reader β} (stands : c.rest = d :: mid)
    (next : Reads (f (some d)) b c rest) : Reads (peek? >>= f) b c rest := by
  change Reads (f c.rest.head?) b c rest
  rwa [stands]

/-- A reader that looks at the next character behind blanks, where there are none. -/
theorem skipBlanks {f : Option Char → Reader β} (stands : c.rest = d :: mid)
    (solid : isSpace d = false) (next : Reads (f (some d)) b c rest) :
    Reads (Reader.skipBlanks >>= f) b c rest := by
  have none : c.rest.takeWhile isSpace = [] := by rw [stands, List.takeWhile_cons, solid]; rfl
  have passed : Reader.skipBlanks c = peek? c := by
    change EStateM.bind (skipAll (c.rest.takeWhile isSpace)) (fun _ => peek?) c = _
    rw [none]
    rfl
  change ∃ after, EStateM.bind Reader.skipBlanks f c = _ ∧ _
  rw [EStateM.bind, passed]
  exact next.peek stands

end Reads

/-! ## Strings -/

theorem hexValue?_lowerHexDigit {n : Nat} (small : n < 16) :
    Text.hexValue? (Text.lowerHexDigit n) = some n := by
  have all : ∀ n : Fin 16, Text.hexValue? (Text.lowerHexDigit n) = some n.val := by decide
  exact all ⟨n, small⟩

variable {c : Cursor} {rest : List Char}

theorem skipAll_reads {passed : List Char} (stands : c.rest = passed ++ rest) :
    (skipAll passed).Reads () c rest := by
  induction passed generalizing c with
  | nil => exact .pure stands
  | cons d passed ih => exact (Reads.skip stands).bind fun c' left _ => ih left

/-- Four hexadecimal digits of which the first two are zeros. -/
theorem hexUnit_reads {n : Nat} (small : n < 256)
    (stands : c.rest =
      ['0', '0', Text.lowerHexDigit (n / 16), Text.lowerHexDigit (n % 16)] ++ rest) :
    hexUnit.Reads n c rest := by
  have high := hexValue?_lowerHexDigit (Nat.div_lt_of_lt_mul small : n / 16 < 16)
  have low := hexValue?_lowerHexDigit (Nat.mod_lt n (by decide) : n % 16 < 16)
  have zero : Text.hexValue? '0' = some 0 := by decide
  refine Reads.get ?_
  rw [stands]
  simp only [List.cons_append, List.nil_append, zero, high, low]
  have value : ((0 * 16 + 0) * 16 + n / 16) * 16 + n % 16 = n := by omega
  rw [value]
  exact (skipAll_reads stands).bind fun c' left _ => .pure left

theorem mark_reads {mark d : Char} (stands : c.rest = mark :: rest) :
    Reads (do skip; pure d) d c rest :=
  (Reads.skip stands).bind fun _ left _ => .pure left

/-- A control character by its number. -/
theorem unicodeEscape_reads {d : Char} (control : d.toNat < 0x20)
    (stands : c.rest =
      ['0', '0', Text.lowerHexDigit (d.toNat / 16), Text.lowerHexDigit (d.toNat % 16)] ++ rest) :
    unicodeEscape.Reads d c rest := by
  refine (hexUnit_reads (by omega) stands).bind fun c' left _ => ?_
  have noLow : (decide (0xDC00 ≤ d.toNat) && decide (d.toNat ≤ 0xDFFF)) = false := by
    simp; omega
  have noHigh : (decide (d.toNat < 0xD800) || decide (0xDBFF < d.toNat)) = true := by
    simp; omega
  rw [noLow, noHigh, if_neg Bool.false_ne_true, if_pos rfl, Char.ofNat_toNat]
  exact .pure left

/-- What stands for a character behind a backslash is read as that character. -/
theorem escapedChar_reads {d : Char} {escaped : List Char} (escapes : Escapes d ('\\' :: escaped))
    (stands : c.rest = escaped ++ rest) : escapedChar.Reads d c rest := by
  cases escapes with
  | marked mem =>
    simp only [marks, List.mem_cons, Prod.mk.injEq, List.not_mem_nil, or_false] at mem
    rcases mem with ⟨rfl, rfl⟩ | ⟨rfl, rfl⟩ | ⟨rfl, rfl⟩ | ⟨rfl, rfl⟩ | ⟨rfl, rfl⟩ | ⟨rfl, rfl⟩ |
      ⟨rfl, rfl⟩ <;> exact .peek stands (mark_reads stands)
  | numbered control =>
    exact .peek stands ((Reads.skip stands).bind fun c' left _ => unicodeEscape_reads control left)
  | plain _ notBackslash => exact absurd rfl notBackslash

/-- A text inside quotes is read up to the quote behind it. -/
theorem stringChars_reads (s : List Char) {fuel : Nat} (enough : s.length < fuel)
    (stands : c.rest = escape s ++ '"' :: rest) : (stringChars fuel).Reads s c rest := by
  induction s generalizing fuel c with
  | nil =>
    obtain ⟨fuel, rfl⟩ := Nat.exists_eq_add_of_lt enough
    exact .peek stands ((Reads.skip stands).bind fun c' left _ => .pure left)
  | cons d s ih =>
    obtain ⟨fuel, rfl⟩ := Nat.exists_eq_add_of_lt enough
    have escapes := escapes_escapeChar d
    rw [escape_cons, List.append_assoc] at stands
    generalize escapeChar d = text at escapes stands
    have later : ∀ c' : Cursor, c'.rest = escape s ++ '"' :: rest →
        Reads (do let cs ← stringChars (s.length + 1 + fuel); pure (d :: cs)) (d :: s) c' rest :=
      fun c' left => (ih (by omega) left).bind fun _ left _ => .pure left
    have escaped : ∀ more, Escapes d ('\\' :: more) →
        c.rest = '\\' :: (more ++ (escape s ++ '"' :: rest)) →
          (stringChars (s.length + 1 + fuel + 1)).Reads (d :: s) c rest :=
      fun more escapes stands => .peek stands ((Reads.skip stands).bind fun c' left _ =>
        (escapedChar_reads escapes left).bind fun _ left _ => later _ left)
    cases escapes with
    | marked mem => exact escaped _ (.marked mem) stands
    | numbered control => exact escaped _ (.numbered control) stands
    | plain notQuote notBackslash visible =>
      refine .peek stands ?_
      dsimp only
      rw [if_neg notQuote, if_neg notBackslash, if_neg (Nat.not_lt.mpr visible)]
      exact (Reads.skip stands).bind fun c' left _ => later c' left

theorem length_le_length_escape (s : List Char) : s.length ≤ (escape s).length := by
  induction s with
  | nil => exact Nat.le_refl _
  | cons d s ih =>
    have some_char : 1 ≤ (escapeChar d).length := by
      have escapes := escapes_escapeChar d
      generalize escapeChar d = text at escapes
      cases escapes <;> simp
    rw [escape_cons, List.length_append, List.length_cons]
    omega

/-- A quoted text is read as what was quoted. -/
theorem stringBody_reads {s : String} (stands : c.rest = escape s.toList ++ '"' :: rest) :
    stringBody.Reads s c rest := by
  refine .get (Reads.bind (stringChars_reads s.toList ?_ stands) fun c' left _ => ?_)
  · rw [stands, List.length_append]
    have := length_le_length_escape s.toList
    omega
  · rw [String.ofList_toList]
    exact .pure left

/-! ## Objects -/

theorem colon_reads (stands : c.rest = ':' :: rest) : colon.Reads () c rest :=
  .skipBlanks stands (by decide) (.skip stands)

/-- Reads what follows the name of a member, and puts the member in front of others. -/
def addMember (value : Reader Json) (before : Members) (name : String) : Reader Members := do
  colon
  let v ← value
  pure ((name, v) :: before)

/-- What stands between an opening character and its end is read one level deeper. -/
theorem enclosed_reads {body : Reader α} {close : Reader Unit} {a : α} {opening : Char}
    {inside behind : List Char} (level : c.nesting ≠ 0) (stands : c.rest = opening :: inside)
    (reads : ∀ c', c'.rest = inside → body.Reads a c' behind)
    (closes : ∀ c', c'.rest = behind → close.Reads () c' rest) :
    (enclosed body close).Reads a c rest := by
  obtain ⟨inner, read, left, -⟩ :=
    reads { c.advance with nesting := c.nesting - 1 } (c.rest_advance stands)
  obtain ⟨after, closed, left', level'⟩ := closes { inner with nesting := c.nesting } left
  refine ⟨after, ?_, left', level'⟩
  rw [enclosed, if_neg level, read]
  dsimp only
  rw [closed]

section Members

variable {value : Reader Json} {members before : Members} {fuel : Nat}

/-- The value of each of some members is read from its text. -/
def ReadsValues (value : Reader Json) (members : Members) : Prop :=
  ∀ member ∈ members, ∀ (c : Cursor) (rest : List Char),
    c.rest = compactChars member.2 ++ rest → value.Reads member.2 c rest

theorem addMember_reads {name : String} {v : Json}
    (reads : ∀ (c : Cursor) (rest : List Char),
      c.rest = compactChars v ++ rest → value.Reads v c rest)
    (stands : c.rest = ':' :: (compactChars v ++ rest)) :
    (addMember value before name).Reads ((name, v) :: before) c rest :=
  (colon_reads stands).bind fun c' left _ => (reads c' rest left).bind fun _ left _ => .pure left

theorem hasMember_reads_end (first : Bool) (stands : c.rest = '\x7d' :: rest) :
    (hasMember first).Reads false c ('\x7d' :: rest) :=
  .skipBlanks stands (by decide) (.pure stands)

theorem hasMember_reads_first (stands : c.rest = '"' :: rest) :
    (hasMember true).Reads true c rest :=
  .skipBlanks stands (by decide) ((Reads.skip stands).bind fun c' left _ => .pure left)

theorem hasMember_reads_next (stands : c.rest = ',' :: '"' :: rest) :
    (hasMember false).Reads true c rest :=
  .skipBlanks stands (by decide) ((Reads.skip stands).bind fun c' left _ =>
    .skipBlanks left (by decide) ((Reads.skip left).bind fun _ left _ => .pure left))

/-- Members behind others are read up to the brace behind them. -/
theorem foldMembers_reads (reads : ReadsValues value members) (enough : members.length < fuel)
    (stands : c.rest = compactMembers members ++ rest) :
    (foldMembers (addMember value) fuel false before).Reads (members.reverse ++ before) c
      ('\x7d' :: rest) := by
  induction members generalizing c before fuel with
  | nil =>
    obtain ⟨fuel, rfl⟩ := Nat.exists_eq_add_of_lt enough
    exact (hasMember_reads_end false stands).bind fun c' left _ => .pure left
  | cons member members ih =>
    obtain ⟨fuel, rfl⟩ := Nat.exists_eq_add_of_lt enough
    obtain ⟨name, v⟩ := member
    rw [ReadsValues, List.forall_mem_cons] at reads
    rw [List.reverse_cons, List.append_assoc, List.singleton_append]
    simp only [compactMembers, quoteChars, List.cons_append, List.append_assoc,
      List.nil_append] at stands
    exact (hasMember_reads_next stands).bind fun c' left _ =>
      (stringBody_reads left).bind fun c' left _ =>
        (addMember_reads reads.1 left).bind fun c' left _ =>
          ih reads.2 (by rw [List.length_cons]; omega) left

theorem length_le_length_compactMembers (members : Members) :
    members.length ≤ (compactMembers members).length := by
  induction members with
  | nil => exact Nat.zero_le _
  | cons member members ih =>
    simp only [compactMembers, List.length_cons, List.length_append]
    omega

theorem objectEnd_reads (stands : c.rest = '\x7d' :: rest) : objectEnd.Reads () c rest :=
  .skipBlanks stands (by decide) (.skip stands)

/-- An object is read member by member, if its values are read. -/
theorem members_reads (level : c.nesting ≠ 0) (reads : ReadsValues value members)
    (stands : c.rest = compactChars (.object members) ++ rest) :
    (Reader.members value).Reads members c rest := by
  suffices enclosing :
      (enclosed (foldMembers (addMember value) (c.rest.length + 1) true []) objectEnd).Reads
        members.reverse c rest from .get (enclosing.bind fun c' left _ => by
    rw [List.reverse_reverse]
    exact .pure left)
  cases members with
  | nil =>
    refine enclosed_reads level stands (fun c' left => ?_) fun c' left => objectEnd_reads left
    exact (hasMember_reads_end true left).bind fun c' left _ => .pure left
  | cons member members =>
    obtain ⟨name, v⟩ := member
    rw [ReadsValues, List.forall_mem_cons] at reads
    have shorter := length_le_length_compactMembers members
    simp only [compactChars, quoteChars, List.cons_append, List.append_assoc,
      List.nil_append] at stands
    refine enclosed_reads level stands (fun c' left => ?_) fun c' left => objectEnd_reads left
    have enough : members.length < c.rest.length := by
      rw [stands]
      simp only [List.length_cons, List.length_append]
      omega
    rw [List.reverse_cons]
    exact (hasMember_reads_first left).bind fun c' left _ =>
      (stringBody_reads left).bind fun c' left _ =>
        (addMember_reads reads.1 left).bind fun c' left _ =>
          foldMembers_reads reads.2 enough left

end Members

/-! ## Values -/

theorem valueWith_reads_string {inner : Reader Json} {s : String}
    (stands : c.rest = quoteChars s ++ rest) : (valueWith inner).Reads (.string s) c rest := by
  simp only [quoteChars, List.cons_append, List.append_assoc, List.nil_append] at stands
  exact .skipBlanks stands (by decide) ((Reads.skip stands).bind fun c' left _ =>
    (stringBody_reads left).bind fun _ left _ => .pure left)

theorem valueWith_reads_object {inner : Reader Json} {members : Members} (level : c.nesting ≠ 0)
    (reads : ReadsValues inner members) (stands : c.rest = compactChars (.object members) ++ rest) :
    (valueWith inner).Reads (.object members) c rest := by
  have opens : ∃ more, c.rest = '\x7b' :: more := by
    cases members <;> exact ⟨_, stands⟩
  obtain ⟨more, opening⟩ := opens
  exact .skipBlanks opening (by decide) ((members_reads level reads stands).bind fun _ left _ =>
    .pure left)

/-- An object whose values are all strings is read wherever another level is allowed. -/
theorem readValue_reads_strings {fields : List (String × String)} (level : c.nesting ≠ 0)
    (stands : c.rest = compactChars (.object (Members.strings fields)) ++ rest) :
    readValue.Reads (.object (Members.strings fields)) c rest := by
  have reads : ∀ nesting, ReadsValues (valueWithin nesting) (Members.strings fields) := by
    intro nesting member mem c rest stands
    obtain ⟨field, -, rfl⟩ := List.mem_map.mp mem
    cases nesting <;> exact valueWith_reads_string stands
  obtain ⟨nesting, deeper⟩ := Nat.exists_eq_succ_of_ne_zero level
  change (valueWithin c.nesting).Reads _ c rest
  rw [deeper]
  exact valueWith_reads_object level (reads nesting) stands

/-! ## Whole texts -/

theorem finish_reads (blank : ∀ d ∈ c.rest, isSpace d) : finish.Reads () c [] := by
  have all : c.rest.takeWhile isSpace = c.rest := List.takeWhile_eq_self_iff.mpr blank
  have passed : (skipAll (c.rest.takeWhile isSpace)).Reads () c [] := by
    rw [all]
    exact skipAll_reads (List.append_nil _).symm
  have next : skipBlanks.Reads none c [] := .get (passed.bind fun c' left _ => by
    refine ⟨c', ?_, left, rfl⟩
    change EStateM.Result.ok c'.rest.head? c' = _
    rw [left]
    rfl)
  exact next.bind fun c' left _ => .pure left

/-- A text is read if a reader reads it up to some blanks. -/
theorem run_eq_ok {r : Reader α} {a : α} {s : String} {blanks : List Char}
    (reads : r.Reads a (Cursor.start s) blanks) (blank : ∀ d ∈ blanks, isSpace d) :
    r.run s = .ok a := by
  have whole : Reads (do let a ← r; finish; pure a) a (Cursor.start s) [] :=
    reads.bind fun c' left _ =>
      (finish_reads (left ▸ blank)).bind fun c' left _ => .pure left
  obtain ⟨after, read, -, -⟩ := whole
  unfold run
  dsimp only
  rw [read]

end Reader

/-- An object whose values are all strings is read from its text, with its members in their order,
if nothing but blanks follows. -/
theorem read_strings {fields : List (String × String)} {s : String} {blanks : List Char}
    (text : s.toList = compactChars (.object (Members.strings fields)) ++ blanks)
    (blank : ∀ d ∈ blanks, Reader.isSpace d) : read s = .ok (.object (Members.strings fields)) :=
  Reader.run_eq_ok (Reader.readValue_reads_strings (Nat.succ_ne_zero _) text) blank

end Json

end EntityQuery
