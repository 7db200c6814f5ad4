import EntityQuery.Proofs.Text

/-!
# Words

The words of a text are its longest runs without blanks.  A text with given words
is any of those that have these words in this order, with blanks between them, and
it may have more blanks around.

## Main Definitions

* `Text.runs`: the longest runs without separators.
* `Text.IsWord`: a text is one word.
* `Text.Spaced`: texts stand in another one, with blanks between them.

## Main Statements

* `Text.words_eq_runs`: words are the runs between blanks.
* `Text.flatMap_runs`: runs that are cut once more.
* `Text.words_eq_iff`: the texts of given words.
* `Text.cutWord_of_spaced`: the first word and what follows it.
-/

namespace EntityQuery.Text

/-! ## Runs -/

section Runs

variable {p q : Char → Bool} {s : List Char}

/-- The longest runs of characters that are no separators. -/
def runs (isSeparator : Char → Bool) (s : List Char) : List (List Char) :=
  (splitOn isSeparator s).filter (· ≠ [])

theorem runs_append_cons {c : Char} (separates : p c) (s t : List Char) :
    runs p (s ++ c :: t) = runs p s ++ runs p t := by
  rw [runs, splitOn_append_cons separates, List.filter_append]
  rfl

/-- A text without a separator is one run, unless it is empty. -/
theorem runs_of_flat (flat : ∀ c ∈ s, p c = false) : runs p s = if s = [] then [] else [s] := by
  rw [runs, splitOn_eq_singleton flat]
  by_cases none : s = [] <;> simp [none]

theorem runs_congr (same : ∀ c ∈ s, p c = q c) : runs p s = runs q s := by
  have cut : splitOn p s = splitOn q s := by
    induction s with
    | nil => rfl
    | cons c s ih =>
      obtain ⟨head, same⟩ := List.forall_mem_cons.mp same
      rw [splitOn, splitOn, head, ih same]
  rw [runs, cut, runs]

/-- A text is flat, or it is a text and a flat one behind a separator. -/
theorem flat_or_exists_append_cons (p : Char → Bool) (s : List Char) :
    (∀ c ∈ s, p c = false) ∨
      ∃ front c piece, s = front ++ c :: piece ∧ p c ∧ ∀ d ∈ piece, p d = false := by
  obtain ⟨piece, front, rfl, separates, flat⟩ := exists_isLastPiece p s
  rcases List.eq_nil_or_concat front with rfl | ⟨front, c, rfl⟩
  · exact .inl flat
  · rw [List.concat_eq_append] at separates ⊢
    exact .inr ⟨front, c, piece, by simp, separates c (List.getLast?_concat ..), flat⟩

/-- Runs that are cut once more are the runs between separators of either kind. -/
theorem flatMap_runs (p q : Char → Bool) (s : List Char) :
    (runs p s).flatMap (runs q) = runs (fun c => p c || q c) s := by
  -- The last piece is taken off together with the separator in front of it.
  induction length : s.length using Nat.strong_induction_on generalizing s with
  | h n ih =>
    rcases flat_or_exists_append_cons p s with flat | ⟨front, c, piece, rfl, separates, flat⟩
    · have same : ∀ c ∈ s, q c = (p c || q c) := fun c mem => by rw [flat c mem, Bool.false_or]
      rw [runs_of_flat flat, ← runs_congr same]
      by_cases none : s = []
      · rw [if_pos none, none]
        rfl
      · rw [if_neg none, List.flatMap_singleton]
    · have shorter : front.length < n := by
        rw [← length, List.length_append, List.length_cons]
        omega
      have same : ∀ c ∈ piece, q c = (p c || q c) := fun c mem => by rw [flat c mem, Bool.false_or]
      have either : (p c || q c) = true := by rw [separates, Bool.true_or]
      rw [runs_append_cons separates, List.flatMap_append, ih _ shorter front rfl,
        runs_append_cons (p := fun c => p c || q c) either, ← runs_congr same, runs_of_flat flat]
      by_cases none : piece = []
      · rw [if_pos none, none]
        rfl
      · rw [if_neg none, List.flatMap_singleton]

end Runs

/-! ## Words -/

section Words

variable {s t w gap rest : List Char} {ws : List (List Char)}

/-- A text is one word: it is not empty, and there is no blank in it. -/
structure IsWord (w : List Char) : Prop where
  ne_nil : w ≠ []
  solid : ∀ c ∈ w, isBlank c = false

theorem isWord_iff : IsWord w ↔ w ≠ [] ∧ w.all (!isBlank ·) := by
  rw [List.all_eq_true]
  simp only [Bool.not_eq_true']
  exact ⟨fun word => ⟨word.ne_nil, word.solid⟩, fun ⟨ne_nil, solid⟩ => ⟨ne_nil, solid⟩⟩

instance (w : List Char) : Decidable (IsWord w) :=
  decidable_of_iff _ isWord_iff.symm

theorem IsWord.isTrimmed (word : IsWord w) : IsTrimmed w :=
  .of_forall word.solid

theorem words_eq_runs (s : List Char) : words s = runs isBlank s := by
  -- The word that is being read is the front of the first piece of what is left.
  have collected : ∀ current, wordsFrom current s =
      ((splitOn isBlank s).modifyHead (current.reverse ++ ·)).filter (· ≠ []) := by
    induction s with
    | nil =>
      intro current
      cases current <;> simp [wordsFrom, splitOn]
    | cons c s ih =>
      intro current
      obtain ⟨piece, pieces, cut⟩ := List.exists_cons_of_ne_nil (splitOn_ne_nil isBlank s)
      rw [wordsFrom, splitOn]
      by_cases blank : isBlank c
      · rw [if_pos blank, if_pos blank, ih, cut]
        cases current <;> simp
      · rw [if_neg blank, if_neg blank, ih, cut]
        simp
  rw [words, collected, runs, List.reverse_nil]
  cases splitOn isBlank s <;> rfl

@[simp] theorem words_nil : words [] = [] := rfl

theorem words_append_cons {c : Char} (blank : isBlank c) (s t : List Char) :
    words (s ++ c :: t) = words s ++ words t := by
  simp only [words_eq_runs]
  exact runs_append_cons blank s t

theorem IsWord.words_eq (word : IsWord w) : words w = [w] := by
  rw [words_eq_runs, runs_of_flat word.solid, if_neg word.ne_nil]

theorem words_blank_append (blank : ∀ c ∈ gap, isBlank c) (s : List Char) :
    words (gap ++ s) = words s := by
  induction gap with
  | nil => rfl
  | cons c gap ih =>
    obtain ⟨head, blank⟩ := List.forall_mem_cons.mp blank
    rw [List.cons_append, ← ih blank]
    exact words_append_cons head [] (gap ++ s)

/-- What stands behind a word is apart from it: it is empty, or begins with a blank. -/
theorem words_append (s : List Char) (apart : ∀ c ∈ rest.head?, isBlank c) :
    words (s ++ rest) = words s ++ words rest := by
  cases rest with
  | nil => rw [List.append_nil, words_nil, List.append_nil]
  | cons c rest =>
    have blank : isBlank c := apart c rfl
    rw [words_append_cons blank]
    exact congrArg (words s ++ ·) (words_append_cons blank [] rest).symm

theorem words_append_blank (s : List Char) (blank : ∀ c ∈ gap, isBlank c) :
    words (s ++ gap) = words s := by
  have none : words gap = [] := by simpa using words_blank_append blank []
  rw [words_append s fun c first => blank c (List.mem_of_mem_head? first), none, List.append_nil]

theorem words_trim (s : List Char) : words (trim s) = words s := by
  obtain ⟨front, back, blankFront, blankBack, whole⟩ := exists_trim_append s
  conv_rhs => rw [whole, words_blank_append blankFront, words_append_blank _ blankBack]

/-! ## Texts of given words -/

/-- Texts stand in another one in this order, with blanks between them and any blanks around. -/
inductive Spaced : List (List Char) → List Char → Prop
  | nil {gap : List Char} (blank : ∀ c ∈ gap, isBlank c) : Spaced [] gap
  | cons {gap t rest : List Char} {ts : List (List Char)} (blank : ∀ c ∈ gap, isBlank c)
      (apart : ∀ c ∈ rest.head?, isBlank c) (spaced : Spaced ts rest) :
      Spaced (t :: ts) (gap ++ (t ++ rest))

theorem Spaced.trim_eq_nil (spaced : Spaced [] s) : trim s = [] := by
  obtain ⟨blank⟩ := spaced
  exact trim_of_blank blank

/-- A text that stands alone is what is left of the whole. -/
theorem Spaced.trim_eq (trimmed : IsTrimmed t) (spaced : Spaced [t] s) : trim s = t := by
  obtain _ | ⟨blank, -, ⟨blank'⟩⟩ := spaced
  exact trimmed.trim_append blank blank'

theorem Spaced.words_eq (spaced : Spaced ws s) (each : ∀ w ∈ ws, IsWord w) : words s = ws := by
  induction spaced with
  | nil blank => simpa using words_blank_append blank []
  | cons blank apart spaced ih =>
    obtain ⟨word, each⟩ := List.forall_mem_cons.mp each
    rw [words_blank_append blank, words_append _ apart, word.words_eq, ih each]
    rfl

/-- A text is made of blanks, or its first word stands behind blanks. -/
theorem blank_or_exists_word (s : List Char) :
    (∀ c ∈ s, isBlank c) ∨ ∃ gap w rest, s = gap ++ (w ++ rest) ∧ (∀ c ∈ gap, isBlank c) ∧
      IsWord w ∧ ∀ c ∈ rest.head?, isBlank c := by
  by_cases none : s.dropWhile isBlank = []
  · exact .inl (List.dropWhile_eq_nil_iff.mp none)
  · refine .inr ⟨s.takeWhile isBlank, (s.dropWhile isBlank).takeWhile (!isBlank ·),
      (s.dropWhile isBlank).dropWhile (!isBlank ·), ?_, fun c mem => List.mem_takeWhile_imp mem,
      ⟨?_, fun c mem => by simpa using List.mem_takeWhile_imp mem⟩, fun c first => ?_⟩
    · rw [List.takeWhile_append_dropWhile, List.takeWhile_append_dropWhile]
    · obtain ⟨c, tail, cut⟩ := List.exists_cons_of_ne_nil none
      have stop := List.head?_dropWhile_not isBlank s
      rw [cut] at stop ⊢
      have solid : isBlank c = false := stop
      simp [solid]
    · have stop := List.head?_dropWhile_not (!isBlank ·) (s.dropWhile isBlank)
      rw [Option.mem_def.mp first] at stop
      simpa using stop

theorem spaced_words (s : List Char) : Spaced (words s) s ∧ ∀ w ∈ words s, IsWord w := by
  induction length : s.length using Nat.strong_induction_on generalizing s with
  | h n ih =>
    rcases blank_or_exists_word s with blank | ⟨gap, w, rest, rfl, blank, word, apart⟩
    · have none : words s = [] := (Spaced.nil blank).words_eq nofun
      rw [none]
      exact ⟨.nil blank, nofun⟩
    · have shorter : rest.length < n := by
        have some_char := List.length_pos_iff.mpr word.ne_nil
        rw [← length, List.length_append, List.length_append]
        omega
      obtain ⟨spaced, each⟩ := ih _ shorter rest rfl
      rw [words_blank_append blank, words_append w apart, word.words_eq]
      exact ⟨.cons blank apart spaced, List.forall_mem_cons.mpr ⟨word, each⟩⟩

/-- The texts of given words are those in which they stand. -/
theorem words_eq_iff : words s = ws ↔ Spaced ws s ∧ ∀ w ∈ ws, IsWord w := by
  constructor
  · rintro rfl
    exact spaced_words s
  · rintro ⟨spaced, each⟩
    exact spaced.words_eq each

/-! ## The first word -/

/-- Up to a blank or the end a word is cut off. -/
theorem IsWord.cutWord_append (word : IsWord w) (apart : ∀ c ∈ rest.head?, isBlank c) :
    cutWord (w ++ rest) = (w, trim rest) := by
  have solid : ∀ c ∈ w, (!isBlank c) = true := fun c mem => by rw [word.solid c mem, Bool.not_false]
  have stop : rest.takeWhile (!isBlank ·) = [] ∧ rest.dropWhile (!isBlank ·) = rest := by
    cases rest with
    | nil => exact ⟨rfl, rfl⟩
    | cons c rest => simp [apart c rfl]
  have after : trim (rest.drop 1) = trim rest := by
    cases rest with
    | nil => rfl
    | cons c rest =>
      have blank : ∀ d ∈ [c], isBlank d := List.forall_mem_singleton.mpr (apart c rfl)
      rw [List.drop_one, List.tail_cons, trim, trim, ← trimStart_append_of_blank blank rest]
      rfl
  rw [cutWord, List.takeWhile_append_of_pos solid, List.dropWhile_append_of_pos solid, stop.1,
    stop.2, List.append_nil, after]

theorem IsWord.trimEnd_append (word : IsWord w) (s : List Char) :
    trimEnd (w ++ s) = w ++ trimEnd s := by
  obtain ⟨front, c, rfl⟩ := (List.eq_nil_or_concat w).resolve_left word.ne_nil
  rw [List.concat_eq_append] at word ⊢
  have solid : isBlank c = false := word.solid c (by simp)
  rw [List.append_assoc, List.append_assoc]
  exact trimEnd_append_cons solid front s

/-- The first word of a trimmed text, and what follows it. -/
theorem cutWord_of_spaced (word : IsWord w) (spaced : Spaced (w :: ws) s) :
    ∃ rest, cutWord (trim s) = (w, trim rest) ∧ Spaced ws rest := by
  obtain _ | @⟨gap, _, rest, _, blank, apart, spaced⟩ := spaced
  have head : ∀ c ∈ (w ++ rest).head?, isBlank c = false := by
    obtain ⟨c, w, rfl⟩ := List.exists_cons_of_ne_nil word.ne_nil
    rintro _ ⟨rfl⟩
    exact word.solid c List.mem_cons_self
  refine ⟨rest, ?_, spaced⟩
  rw [trim, trimStart_append_of_blank blank, trimStart_eq_self head, word.trimEnd_append,
    word.cutWord_append fun c first => apart c (mem_head?_of_trimEnd first), trim_trimEnd]

theorem IsTrimmed.eq_nil_of_words (trimmed : IsTrimmed s) (none : words s = []) : s = [] := by
  rw [← trimmed.trim_eq]
  exact (words_eq_iff.mp none).1.trim_eq_nil

/-- A trimmed text with one word is that word. -/
theorem IsTrimmed.eq_of_words (trimmed : IsTrimmed s) (one : words s = [w]) : s = w := by
  obtain ⟨spaced, each⟩ := words_eq_iff.mp one
  have word := each w List.mem_cons_self
  rw [← trimmed.trim_eq]
  exact spaced.trim_eq word.isTrimmed

/-- What follows the first word is trimmed, and has the other words. -/
theorem cutWord_of_words (trimmed : IsTrimmed s) (cut : words s = w :: ws) :
    ∃ rest, cutWord s = (w, rest) ∧ IsTrimmed rest ∧ words rest = ws := by
  obtain ⟨spaced, each⟩ := words_eq_iff.mp cut
  obtain ⟨word, each⟩ := List.forall_mem_cons.mp each
  obtain ⟨rest, read, inner⟩ := cutWord_of_spaced word spaced
  rw [trimmed.trim_eq] at read
  exact ⟨trim rest, read, isTrimmed_trim rest, by rw [words_trim, inner.words_eq each]⟩

/-- If a text has a first word, then its words are this one and those that follow it. -/
theorem words_eq_cons_of_cutWord {rest : List Char} (trimmed : IsTrimmed s)
    (cut : cutWord s = (w, rest)) (filled : w ≠ []) :
    IsTrimmed rest ∧ words s = w :: words rest := by
  cases every : words s with
  | nil =>
    rw [trimmed.eq_nil_of_words every] at cut
    exact absurd (congrArg Prod.fst cut).symm filled
  | cons first ws =>
    obtain ⟨rest', cut', inner⟩ := cutWord_of_words trimmed every
    obtain ⟨rfl, rfl⟩ := Prod.mk.inj (cut.symm.trans cut')
    exact ⟨inner.1, by rw [inner.2]⟩

end Words

end EntityQuery.Text
