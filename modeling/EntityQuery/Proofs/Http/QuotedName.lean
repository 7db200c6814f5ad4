import EntityQuery.Proofs.Http.FileName

/-!
# Quoted names in header values

A header value is cut at semicolons before anything else, and quotes do not
protect them.  So a name in quotes is read back whole exactly if there is no
semicolon in it.  Otherwise it is cut short.

## Main Definitions

* `Disposition.Introduces`: what stands in front of the name in a parameter.
* `Disposition.QuotesName`: a header value has a name in quotes.

## Main Statements

* `Disposition.Introduces.parameterName?_eq`: the name in a parameter.
* `Disposition.fileName?_quoted`: what is read of a name in quotes.
-/

namespace EntityQuery.Disposition

open Text

/-- What stands in front of a value that is a file name: the key, in any letter case, and an equals
sign, with blanks around both if need be. -/
def Introduces (opening : List Char) : Prop :=
  ∃ before key between after, opening = before ++ (key ++ (between ++ '=' :: after)) ∧
    (∀ gap ∈ [before, between, after], ∀ c ∈ gap, isBlank c) ∧
    key.map Char.toLower = "filename".toList

/-- A header value whose only parameter is a file name in quotes.  Blanks may stand around the
separators and at the end. -/
def QuotesName (name value : List Char) : Prop :=
  ∃ gap opening back,
    value = "attachment".toList ++ gap ++ ';' :: (opening ++ '"' :: (name ++ '"' :: back)) ∧
    (∀ c ∈ gap, isBlank c) ∧ Introduces opening ∧ ∀ c ∈ back, isBlank c

/-! ## The key -/

section Key

variable {c : Char} {key s : List Char}

theorem toLower_mem_of_named (named : key.map Char.toLower = "filename".toList) (mem : c ∈ key) :
    c.toLower ∈ "filename".toList :=
  named ▸ List.mem_map_of_mem mem

/-- The key of a file name has no blanks. -/
theorem solid_of_named (named : key.map Char.toLower = "filename".toList) :
    ∀ c ∈ key, isBlank c = false := by
  have visible : ∀ c ∈ "filename".toList, 0x20 < c.toNat ∧ c.toNat < 0x7F := by simp
  refine solid_of_toLower fun c mem => ?_
  rw [named] at mem
  exact isBlank_of_visible (visible c mem).1 (visible c mem).2

/-- Nor does it have separators. -/
theorem separator_not_mem_of_named (named : key.map Char.toLower = "filename".toList) :
    ';' ∉ key ∧ '=' ∉ key :=
  ⟨fun mem => absurd (toLower_mem_of_named named mem) (by decide +kernel),
    fun mem => absurd (toLower_mem_of_named named mem) (by decide +kernel)⟩

/-- A separator does not stand in blanks. -/
theorem not_mem_of_blank (blank : ∀ c ∈ s, isBlank c) (solid : isBlank c = false) : c ∉ s :=
  fun mem => Bool.noConfusion (solid.symm.trans (blank c mem))

end Key

/-! ## One parameter -/

section Parameter

variable {opening name s : List Char}

theorem Introduces.semicolon_not_mem (introduces : Introduces opening) : ';' ∉ opening := by
  obtain ⟨_, _, _, _, rfl, blank, named⟩ := introduces
  have gaps : ∀ gap ∈ _, ';' ∉ gap := fun gap mem => not_mem_of_blank (blank gap mem) (by decide)
  simp only [List.forall_mem_cons] at gaps
  simp [gaps, (separator_not_mem_of_named named).1]

/-- Behind its key the value of a parameter begins with the first character that is no blank. -/
theorem Introduces.cutFirst_eq (introduces : Introduces opening) {c : Char}
    (solid : isBlank c = false) (rest : List Char) :
    ∃ key value, cutFirst '=' (trim (opening ++ c :: rest)) = some (key, value) ∧
      (trim key).map Char.toLower = "filename".toList ∧ trim value = c :: trimEnd rest := by
  obtain ⟨before, key, between, after, rfl, blank, named⟩ := introduces
  simp only [List.forall_mem_cons] at blank
  obtain ⟨blankBefore, blankBetween, blankAfter, -⟩ := blank
  have solidKey := solid_of_named named
  have head : ∀ d ∈ (key ++ (between ++ '=' :: (after ++ c :: rest))).head?, isBlank d = false := by
    intro d first
    cases key with
    | nil => cases named
    | cons e key =>
      cases first
      exact solidKey _ List.mem_cons_self
  have trimmed : trim ((before ++ (key ++ (between ++ '=' :: after))) ++ c :: rest) =
      (key ++ between) ++ '=' :: (after ++ c :: trimEnd rest) := by
    simp only [List.append_assoc, List.cons_append]
    rw [trim, trimStart_append_of_blank blankBefore, trimStart_eq_self head, ← List.append_assoc,
      trimEnd_append_cons (by decide), trimEnd_append_cons solid, List.append_assoc]
  have absent : '=' ∉ key ++ between := by
    rw [List.mem_append, not_or]
    exact ⟨(separator_not_mem_of_named named).2, not_mem_of_blank blankBetween (by decide)⟩
  have keyTrimmed : trim (key ++ between) = key :=
    (IsTrimmed.of_forall solidKey).trim_append_blank blankBetween
  have value : IsTrimmed (c :: trimEnd rest) := by
    refine ⟨fun d first => ?_, ?_⟩
    · cases first
      exact solid
    · rw [← trimEnd_cons_of_solid solid]
      exact isBlank_getLast?_trimEnd _
  refine ⟨_, _, trimmed ▸ cutFirst_append_cons absent _, ?_, ?_⟩
  · rw [keyTrimmed, named]
  · exact value.trim_blank_append blankAfter

theorem dropTrailing_eq_self (absent : '"' ∉ s) : dropTrailing '"' s = s :=
  List.rdropWhile_eq_self_iff.mpr fun some_char quote =>
    absent (beq_iff_eq.mp quote ▸ List.getLast_mem some_char)

theorem dropTrailing_concat (s : List Char) : dropTrailing '"' (s ++ ['"']) = dropTrailing '"' s :=
  List.rdropWhile_concat_pos (· == '"') s '"' rfl

theorem dropLeading_append (absent : '"' ∉ name) (some_char : name ≠ []) (s : List Char) :
    dropLeading '"' (name ++ s) = name ++ s := by
  obtain ⟨c, name, rfl⟩ := List.exists_cons_of_ne_nil some_char
  obtain ⟨other, -⟩ := not_or.mp (mt List.mem_cons.mpr absent)
  exact List.dropWhile_cons_of_neg (by simpa using Ne.symm other)

/-- The quote in front of a name is dropped, and so is one behind it. -/
theorem unquoted_cons (absent : '"' ∉ name) (some_char : name ≠ []) :
    unquoted ('"' :: name) = name ∧ unquoted ('"' :: (name ++ ['"'])) = name := by
  have dropped (s : List Char) : unquoted ('"' :: s) = dropTrailing '"' (dropLeading '"' s) := rfl
  have alone := dropLeading_append absent some_char []
  rw [List.append_nil] at alone
  rw [dropped, dropped, alone, dropLeading_append absent some_char, dropTrailing_concat,
    dropTrailing_eq_self absent]
  exact ⟨rfl, rfl⟩

theorem lastSegment_eq_self (flat : ∀ c ∈ s, ExportHandle.isSlash c = false) :
    lastSegment s = s :=
  lastSegment_eq_iff.mpr ⟨[], rfl, nofun, flat⟩

/-- A parameter whose value is a name behind a quote, or in quotes, has this name. -/
theorem Introduces.parameterName?_eq (introduces : Introduces opening) (some_char : name ≠ [])
    (noQuote : '"' ∉ name) (noSlash : ∀ c ∈ name, ExportHandle.isSlash c = false) {rest : List Char}
    (behind : trimEnd rest = name ∨ trimEnd rest = name ++ ['"']) :
    parameterName? (opening ++ '"' :: rest) = some name := by
  obtain ⟨key, value, cut, named, trimmed⟩ := introduces.cutFirst_eq (c := '"') (by decide) rest
  have read : unquoted (trim value) = name := by
    obtain ⟨alone, inQuotes⟩ := unquoted_cons noQuote some_char
    rcases behind with behind | behind
    · rw [trimmed, behind, alone]
    · rw [trimmed, behind, inQuotes]
  refine parameterName?_eq_some_iff.mpr ⟨key, value, cut, named, ?_, some_char⟩
  rw [read]
  exact lastSegment_eq_iff.mp (lastSegment_eq_self noSlash)

end Parameter

/-! ## The header value -/

section Header

variable {header : String} {name : List Char}

/-- A name that is read of a parameter stands in it. -/
theorem Names.mem {parameter : List Char} (names : Names parameter name) :
    ∀ c ∈ name, c ∈ parameter := by
  obtain ⟨key, value, cut, -, ⟨front, whole, -, -⟩, -⟩ := names
  obtain ⟨cut, -⟩ := cutFirst_eq_some_iff.mp cut
  intro c mem
  have inside : c ∈ unquoted (trim value) := whole ▸ List.mem_append_right front mem
  have inside : c ∈ dropLeading '"' (trim value) := (List.rdropWhile_prefix _ _).subset inside
  have inside : c ∈ value := mem_of_mem_trim ((List.dropWhile_suffix _).subset inside)
  refine mem_of_mem_trim ?_
  rw [cut]
  exact List.mem_append_right key (List.mem_cons_of_mem '=' inside)

/-- No name with a semicolon is read. -/
theorem semicolon_not_mem_of_fileName? {name : String} (read : fileName? header = some name) :
    ';' ∉ name.toList := by
  obtain ⟨before, parameter, after, cut, -, names⟩ := fileName?_eq_some_iff.mp read
  intro mem
  have piece : parameter ∈ splitOn (· == ';') header.toList := by
    rw [cut]
    exact List.mem_append_right before List.mem_cons_self
  exact Bool.noConfusion (flat_of_mem_splitOn piece ';' (names.mem ';' mem))

/-- The type in front of the only parameter names nothing. -/
theorem fileName?_attachment {gap rest : List Char} (blank : ∀ c ∈ gap, isBlank c)
    (whole : header.toList = "attachment".toList ++ gap ++ ';' :: rest) :
    fileName? header =
      ((splitOn (· == ';') rest).findSome? parameterName?).map String.ofList := by
  have absent (c : Char) (solid : isBlank c = false) (other : c ∉ "attachment".toList) :
      c ∉ "attachment".toList ++ gap := by
    rw [List.mem_append, not_or]
    exact ⟨other, not_mem_of_blank blank solid⟩
  have alone : splitOn (· == ';') ("attachment".toList ++ gap) = ["attachment".toList ++ gap] :=
    splitOn_eq_singleton fun c mem => beq_false_of_ne fun same =>
      absent ';' (by decide) (by decide +kernel) (same ▸ mem)
  have none : parameterName? ("attachment".toList ++ gap) = none := by
    rw [parameterName?, cutFirst_eq_none fun mem =>
      absent '=' (by decide) (by decide +kernel) (mem_of_mem_trim mem)]
  rw [fileName?, whole, splitOn_append_cons rfl, alone, List.singleton_append,
    List.findSome?_cons, none]

/-- What is read of a name in quotes.  The name may be of any characters but quotes and slashes.  It
is read back whole exactly if there is no semicolon in it.  Otherwise it is cut at the first one, and
the blanks in front of that are lost as well. -/
theorem fileName?_quoted {header name : String} (quotes : QuotesName name.toList header.toList)
    (some_char : name ≠ "") (noQuote : '"' ∉ name.toList)
    (noSlash : ∀ c ∈ name.toList, ExportHandle.isSlash c = false) :
    (fileName? header = some name ↔ ';' ∉ name.toList) ∧
    ∀ front rest, name.toList = front ++ ';' :: rest → ';' ∉ front →
      (∃ c ∈ front, isBlank c = false) →
      fileName? header = some (String.ofList (trimEnd front)) := by
  obtain ⟨gap, opening, back, whole, blank, introduces, blankBack⟩ := quotes
  have filled : name.toList ≠ [] := by simpa using some_char
  -- What the first parameter names is named, and it ends at the first semicolon.
  have first (s : List Char) (absent : ';' ∉ s) :
      splitOn (· == ';') (opening ++ '"' :: s) = [opening ++ '"' :: s] := by
    refine splitOn_eq_singleton fun c mem => beq_false_of_ne fun same => ?_
    subst same
    simp [introduces.semicolon_not_mem, absent] at mem
  rw [fileName?_attachment blank whole]
  constructor
  · constructor
    · intro read
      rw [← fileName?_attachment blank whole] at read
      exact semicolon_not_mem_of_fileName? read
    · intro absent
      have closed : ';' ∉ name.toList ++ '"' :: back := by
        simp [absent, not_mem_of_blank (c := ';') blankBack (by decide)]
      have behind : trimEnd (name.toList ++ '"' :: back) = name.toList ++ ['"'] := by
        have none : trimEnd back = [] := trimEnd_append_of_blank blankBack []
        rw [trimEnd_append_cons (by decide), none]
      rw [first _ closed, List.findSome?_singleton,
        introduces.parameterName?_eq filled noQuote noSlash (.inr behind), Option.map_some,
        String.ofList_toList]
  · intro front rest split absent solid
    have within : ∀ c ∈ trimEnd front, c ∈ name.toList := fun c mem =>
      split ▸ List.mem_append_left _ ((trimEnd_isPrefix front).subset mem)
    have filled : trimEnd front ≠ [] := by
      rw [Ne, trimEnd_eq_rdropWhile, List.rdropWhile_eq_nil_iff]
      obtain ⟨c, mem, solid⟩ := solid
      exact fun blank => Bool.eq_false_iff.mp solid (blank c mem)
    rw [split, List.append_assoc, List.cons_append, ← List.cons_append, ← List.append_assoc,
      splitOn_append_cons rfl, first _ absent, List.singleton_append, List.findSome?_cons,
      introduces.parameterName?_eq filled (mt (within '"') noQuote)
        (fun c mem => noSlash c (within c mem)) (.inl rfl)]
    rfl

/-- Other punctuation is read back. -/
theorem fileName?_quoted_of_punctuation :
    let header := "attachment ;\tFileName = \"a=b, (c) 'd'.csv\" "
    let name := "a=b, (c) 'd'.csv"
    QuotesName name.toList header.toList ∧ fileName? header = some name := by
  intro header name
  have space : ∀ c ∈ [' '], isBlank c := List.forall_mem_singleton.mpr (by decide)
  have gaps : ∀ gap ∈ [['\t'], [' '], [' ']], ∀ c ∈ gap, isBlank c := by simp [isBlank]
  have opens : Introduces "\tFileName = ".toList :=
    ⟨_, "FileName".toList, _, _, by decide +kernel, gaps, by decide +kernel⟩
  have quotes : QuotesName name.toList header.toList :=
    ⟨_, _, _, by decide +kernel, space, opens, space⟩
  have noSlash : ∀ c ∈ name.toList, ExportHandle.isSlash c = false := by
    simp [name, ExportHandle.isSlash]
  have plain := fileName?_quoted quotes (by decide) (by decide +kernel) noSlash
  exact ⟨quotes, plain.1.mpr (by decide +kernel)⟩

/-- A semicolon in quotes ends the name all the same. -/
theorem fileName?_of_semicolon :
    let header := "attachment; filename=\"a;b.csv\""
    let name := "a;b.csv"
    QuotesName name.toList header.toList ∧
      (∀ c ∈ name.toList, 0x20 ≤ c.toNat ∧ c.toNat < 0x7F ∧ c ≠ '"' ∧
        ExportHandle.isSlash c = false) ∧
      fileName? header = some "a" := by
  intro header name
  have gaps : ∀ gap ∈ [[' '], [], []], ∀ c ∈ gap, isBlank c := by simp [isBlank]
  have opens : Introduces " filename=".toList :=
    ⟨_, "filename".toList, _, _, by decide +kernel, gaps, rfl⟩
  have quotes : QuotesName name.toList header.toList :=
    ⟨_, _, _, by decide +kernel, blank_nil, opens, blank_nil⟩
  exact ⟨quotes, by simp [name, ExportHandle.isSlash], by decide +kernel⟩

end Header

end EntityQuery.Disposition
