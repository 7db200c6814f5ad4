import EntityQuery.Answer.Table
import EntityQuery.Proofs.Text
import Mathlib.Algebra.Ring.Nat
import Mathlib.Data.List.GetD
import Mathlib.Order.Bounds.Defs
import Mathlib.Order.MinMax

/-!
# Columns of a table

A table is shown as lines of text in which the columns stand below each other.
Every column is as wide as its widest cell, and three characters stand between
one column and the next.  So each column starts at the same place in every line,
and the bar before it stands at the same place, whatever is in the cells.

## Main Definitions

* `Table.Aligned`: a line in which given cells stand in columns of given widths.

## Main Statements

* `drop_intercalate`: what is left of texts side by side behind the first few.
* `Table.isGreatest_widths`: a column is as wide as its widest cell.
* `Table.aligned_lineChars`: the line of some cells is aligned.
* `Table.ofPage?_laidOut`: the table of a page, and the lines of its text.

## Design Notes

A line is compared before it is trimmed: the blanks that it has lost are put
back, and then every cell is whole.  A bar is no blank, so it is never lost.
-/

namespace EntityQuery

/-! ## Texts side by side -/

section Intercalate

variable {sep : List Char} {texts : List (List Char)}

/-- Behind the first texts and their separators, the others stand side by side. -/
theorem drop_intercalate (sep : List Char) (texts : List (List Char)) (i : Nat) :
    (sep.intercalate texts).drop (((texts.map List.length).take i).sum + sep.length * i) =
      sep.intercalate (texts.drop i) := by
  induction texts generalizing i with
  | nil => simp
  | cons first rest ih =>
    cases i with
    | zero => simp
    | succ i =>
      cases rest with
      | nil => simp
      | cons second rest =>
        have behind : first.length + (((second :: rest).map List.length).take i).sum +
            sep.length * (i + 1) =
              (first ++ sep).length +
                ((((second :: rest).map List.length).take i).sum + sep.length * i) := by
          rw [List.length_append, Nat.mul_succ]
          omega
        rw [List.intercalate_cons_cons, List.drop_succ_cons, ← ih i, List.map_cons,
          List.take_succ_cons, List.sum_cons, behind, List.drop_length_add_append]

/-- Behind the first texts stands the next one. -/
theorem isPrefix_drop_intercalate (sep : List Char) {i : Nat} {text : List Char}
    (there : texts[i]? = some text) :
    text <+: (sep.intercalate texts).drop
      (((texts.map List.length).take i).sum + sep.length * i) := by
  rw [drop_intercalate]
  obtain ⟨inside, rfl⟩ := List.getElem?_eq_some_iff.mp there
  rw [List.drop_eq_getElem_cons inside]
  cases texts.drop (i + 1) with
  | nil => exact ⟨[], by rw [List.append_nil, List.intercalate_singleton]⟩
  | cons second rest =>
    rw [List.intercalate_cons_cons, List.append_assoc]
    exact List.prefix_append _ _

/-- Between one text and the next stands the separator. -/
theorem isPrefix_drop_intercalate_of_lt (sep : List Char) {i : Nat}
    (inside : i + 1 < texts.length) :
    sep <+: (sep.intercalate texts).drop
      (((texts.map List.length).take (i + 1)).sum + sep.length * i) := by
  have here : i < texts.length := Nat.lt_of_succ_lt inside
  have next : texts.drop i = texts[i] :: texts[i + 1] :: texts.drop (i + 1 + 1) := by
    rw [List.drop_eq_getElem_cons here, List.drop_eq_getElem_cons inside]
  have behind : ((texts.map List.length).take (i + 1)).sum + sep.length * i =
      ((texts.map List.length).take i).sum + sep.length * i + texts[i].length := by
    rw [List.take_succ_eq_append_getElem (by simpa using here), List.sum_append]
    simp
    omega
  rw [behind, ← List.drop_drop, drop_intercalate, next, List.intercalate_cons_cons,
    List.append_assoc, List.drop_left]
  exact List.prefix_append _ _

theorem length_intercalate (sep : List Char) (texts : List (List Char)) :
    (sep.intercalate texts).length =
      (texts.map List.length).sum + sep.length * (texts.length - 1) := by
  induction texts with
  | nil => rfl
  | cons first rest ih =>
    cases rest with
    | nil => simp
    | cons second rest =>
      rw [List.intercalate_cons_cons, List.length_append, List.length_append, ih]
      simp only [List.map_cons, List.sum_cons, List.length_cons, Nat.add_sub_cancel, Nat.mul_succ]
      omega

end Intercalate

namespace Table

/-! ## Widths -/

/-- Every row has a cell below each header. -/
def IsRectangular (t : Table) : Prop :=
  ∀ row ∈ t.rows, row.length = t.headers.length

/-- The widths of some columns, and those of the cells of one more row. -/
def widen (widths : List Nat) (row : List String) : List Nat :=
  List.zipWith max widths (row.map String.length)

theorem widths_eq_foldl (t : Table) :
    t.widths = t.rows.foldl widen (t.headers.map String.length) :=
  rfl

theorem length_widen {widths : List Nat} {row : List String} (fits : row.length = widths.length) :
    (widen widths row).length = widths.length := by
  simp [widen, fits]

theorem getD_widen {widths : List Nat} {row : List String} (fits : row.length = widths.length)
    {i : Nat} (inside : i < widths.length) :
    (widen widths row).getD i 0 = max (widths.getD i 0) (row.getD i "").length := by
  have cell : i < row.length := fits ▸ inside
  have both : i < (widen widths row).length := by rwa [length_widen fits]
  rw [List.getD_eq_getElem _ _ both, List.getD_eq_getElem _ _ inside, List.getD_eq_getElem _ _ cell]
  simp only [widen, List.getElem_zipWith, List.getElem_map]

theorem length_foldl_widen {rows : List (List String)} {widths : List Nat}
    (fits : ∀ row ∈ rows, row.length = widths.length) :
    (rows.foldl widen widths).length = widths.length := by
  induction rows generalizing widths with
  | nil => rfl
  | cons row rows ih =>
    rw [List.forall_mem_cons] at fits
    have same := length_widen fits.1
    rw [List.foldl_cons, ih (by rw [same]; exact fits.2), same]

/-- Over some rows, a column grows to the most characters that it has in any. -/
theorem isGreatest_foldl_widen {rows : List (List String)} {widths : List Nat}
    (fits : ∀ row ∈ rows, row.length = widths.length) {i : Nat} (inside : i < widths.length) :
    IsGreatest {n | widths.getD i 0 = n ∨ ∃ row ∈ rows, (row.getD i "").length = n}
      ((rows.foldl widen widths).getD i 0) := by
  induction rows generalizing widths with
  | nil => exact ⟨.inl rfl, by rintro n (rfl | ⟨row, mem, -⟩); exacts [le_rfl, by cases mem]⟩
  | cons row rows ih =>
    rw [List.forall_mem_cons] at fits
    have same := length_widen fits.1
    obtain ⟨attained, bound⟩ := ih (by rw [same]; exact fits.2) (by rw [same]; exact inside)
    have wider := bound (.inl rfl)
    rw [Set.mem_ofPred_eq, getD_widen fits.1 inside] at attained
    rw [getD_widen fits.1 inside, max_le_iff] at wider
    constructor
    · rcases attained with first | ⟨later, mem, widest⟩
      · rcases max_choice (widths.getD i 0) (row.getD i "").length with old | new
        · exact .inl (old ▸ first)
        · exact .inr ⟨row, List.mem_cons_self, new ▸ first⟩
      · exact .inr ⟨later, List.mem_cons_of_mem _ mem, widest⟩
    · rintro n (rfl | ⟨other, mem, rfl⟩)
      · exact wider.1
      · rcases List.mem_cons.mp mem with rfl | mem
        · exact wider.2
        · exact bound (.inr ⟨other, mem, rfl⟩)

variable {t : Table}

theorem IsRectangular.fits (rectangular : t.IsRectangular) :
    ∀ row ∈ t.rows, row.length = (t.headers.map String.length).length :=
  fun row mem => (rectangular row mem).trans (List.length_map _).symm

theorem length_widths (rectangular : t.IsRectangular) : t.widths.length = t.headers.length := by
  rw [widths_eq_foldl, length_foldl_widen rectangular.fits, List.length_map]

/-- A column is as wide as its widest cell, the header among them. -/
theorem isGreatest_widths (rectangular : t.IsRectangular) {i : Nat}
    (inside : i < t.headers.length) :
    IsGreatest {n | ∃ cells ∈ t.headers :: t.rows, (cells.getD i "").length = n}
      (t.widths.getD i 0) := by
  have header : (t.headers.map String.length).getD i 0 = (t.headers.getD i "").length := by
    simp [List.getD_eq_getElem?_getD, inside]
  have greatest := isGreatest_foldl_widen rectangular.fits (by rwa [List.length_map])
  rw [header] at greatest
  simpa only [widths_eq_foldl, List.exists_mem_cons_iff] using greatest

/-- No cell of a line is wider than its column. -/
theorem length_le_widths (rectangular : t.IsRectangular) {cells : List String}
    (mem : cells ∈ t.headers :: t.rows) {i : Nat} (inside : i < t.headers.length) :
    (cells.getD i "").length ≤ t.widths.getD i 0 :=
  (isGreatest_widths rectangular inside).2 ⟨cells, mem, rfl⟩

/-! ## Lines -/

/-- The cells stand in columns of the given widths, with a bar before each but the first.  They are
whole: the line has only lost the blanks at its end. -/
structure Aligned (widths : List Nat) (cells : List String) (text : List Char) : Prop where
  bars : ∀ k, 1 ≤ k → k < widths.length → text[(widths.take k).sum + 3 * (k - 1) + 1]? = some '|'
  columns : ∃ blanks, (∀ c ∈ blanks, Text.isBlank c) ∧
    (text ++ blanks).length = widths.sum + 3 * (widths.length - 1) ∧
    ∀ i cell, cells[i]? = some cell →
      cell.toList <+: (text ++ blanks).drop ((widths.take i).sum + 3 * i)
  trimmed : ∀ c ∈ text.getLast?, Text.isBlank c = false

theorem length_padded {width : Nat} {cell : String} (fits : cell.length ≤ width) :
    (padded width cell).length = width := by
  rw [padded, List.length_append, String.length_toList, List.length_replicate]
  omega

/-- Padded cells are as wide as the columns. -/
theorem map_length_padded {widths : List Nat} {cells : List String}
    (fits : List.Forall₂ (fun width cell => cell.length ≤ width) widths cells) :
    (List.zipWith padded widths cells).map List.length = widths := by
  induction fits with
  | nil => rfl
  | cons fit _ ih => rw [List.zipWith_cons_cons, List.map_cons, ih, length_padded fit]

/-- The bar between two columns. -/
theorem getElem?_intercalate (a b d : Char) {texts : List (List Char)} {k : Nat}
    (some_text : 1 ≤ k) (inside : k < texts.length) :
    ([a, b, d].intercalate texts)[((texts.map List.length).take k).sum + 3 * (k - 1) + 1]? =
      some b := by
  obtain ⟨i, rfl⟩ := Nat.exists_eq_add_of_le' some_text
  obtain ⟨rest, there⟩ := isPrefix_drop_intercalate_of_lt [a, b, d] inside
  rw [Nat.add_sub_cancel, ← List.getElem?_drop]
  change (List.drop (_ + [a, b, d].length * i) _)[1]? = _
  rw [← there]
  rfl

/-- The line of some cells, none wider than its column. -/
theorem aligned_lineChars {widths : List Nat} {cells : List String}
    (fits : List.Forall₂ (fun width cell => cell.length ≤ width) widths cells) :
    Aligned widths cells (lineChars widths cells) := by
  have lengths := map_length_padded fits
  have count : (List.zipWith padded widths cells).length = widths.length := by
    rw [← List.length_map, lengths]
  rw [lineChars]
  obtain ⟨blanks, blank, whole⟩ := Text.exists_trimEnd_append
    ([' ', '|', ' '].intercalate (List.zipWith padded widths cells))
  refine ⟨fun k some_text inside => ?_, ⟨blanks, blank, ?_, fun i cell there => ?_⟩,
    Text.isBlank_getLast?_trimEnd _⟩
  · refine Text.getElem?_trimEnd ?_ (by decide)
    have bar := getElem?_intercalate ' ' '|' ' ' some_text (count ▸ inside)
    rwa [lengths] at bar
  · rw [whole, length_intercalate, lengths, count]
    rfl
  · have bounded : i < cells.length := (List.getElem?_eq_some_iff.mp there).1
    obtain ⟨width, column⟩ : ∃ width, widths[i]? = some width :=
      ⟨_, List.getElem?_eq_getElem (fits.length_eq ▸ bounded)⟩
    have text : (List.zipWith padded widths cells)[i]? = some (padded width cell) := by
      rw [List.getElem?_zipWith, column, there]
    have stands := isPrefix_drop_intercalate [' ', '|', ' '] text
    rw [lengths] at stands
    rw [whole]
    exact (List.prefix_append _ _).trans stands

/-- The rule has a cross below each bar. -/
theorem getElem?_ruleChars {widths : List Nat} {k : Nat} (some_column : 1 ≤ k)
    (inside : k < widths.length) :
    (ruleChars widths)[(widths.take k).sum + 3 * (k - 1) + 1]? = some '+' := by
  have lengths : (widths.map (List.replicate · '-')).map List.length = widths := by
    simp [Function.comp_def]
  have cross := getElem?_intercalate '-' '+' '-' some_column
    (by rwa [List.length_map] : k < (widths.map (List.replicate · '-')).length)
  rwa [lengths] at cross

/-- The cells of every line fit into the columns. -/
theorem forall₂_length_le_widths (rectangular : t.IsRectangular) {cells : List String}
    (mem : cells ∈ t.headers :: t.rows) :
    List.Forall₂ (fun width cell => cell.length ≤ width) t.widths cells := by
  have count : cells.length = t.headers.length := by
    rcases List.mem_cons.mp mem with rfl | mem
    · rfl
    · exact rectangular cells mem
  have same := length_widths rectangular
  refine List.forall₂_iff_get.mpr ⟨same.trans count.symm, fun i inside here => ?_⟩
  have fits := length_le_widths rectangular mem (same ▸ inside)
  simpa [List.getD_eq_getElem?_getD, inside, here] using fits

/-! ## Line ends -/

theorem newLine_not_mem_lineChars (widths : List Nat) {cells : List String}
    (unbroken : ∀ cell ∈ cells, '\n' ∉ cell.toList) : '\n' ∉ lineChars widths cells := by
  intro mem
  rcases Text.mem_intercalate ((Text.trimEnd_isPrefix _).subset mem) with mem | ⟨text, there, mem⟩
  · revert mem
    decide
  · rw [← List.map_uncurry_zip_eq_zipWith] at there
    obtain ⟨⟨width, cell⟩, pair, rfl⟩ := List.mem_map.mp there
    rcases List.mem_append.mp mem with mem | mem
    · exact unbroken cell (List.of_mem_zip pair).2 mem
    · cases List.eq_of_mem_replicate mem

theorem newLine_not_mem_ruleChars (widths : List Nat) : '\n' ∉ ruleChars widths := by
  intro mem
  rcases Text.mem_intercalate mem with mem | ⟨text, there, mem⟩
  · revert mem
    decide
  · obtain ⟨width, -, rfl⟩ := List.mem_map.mp there
    cases List.eq_of_mem_replicate mem

theorem newLine_not_mem_toString (n : UInt64) : '\n' ∉ (toString n).toList := fun mem =>
  absurd (Text.isDigit_of_mem_toString (n := n.toNat) mem) (by decide)

theorem newLine_not_mem_banner (place : PagePlace) : '\n' ∉ place.banner.toList := by
  have number := newLine_not_mem_toString place.number
  have pages := newLine_not_mem_toString place.totalPages
  have elements := newLine_not_mem_toString place.totalElements
  simp only [PagePlace.banner, String.toList_append, List.mem_append, number, pages, elements,
    or_false]
  decide

/-- The lines of the text of a table whose cells have no line end in them. -/
theorem splitOn_text
    (unbroken : ∀ cells ∈ t.headers :: t.rows, ∀ cell ∈ cells, '\n' ∉ cell.toList) :
    t.text.toList.splitOn '\n' = t.lines := by
  rw [List.forall_mem_cons] at unbroken
  have whole : ∀ line ∈ t.lines, '\n' ∉ line := by
    intro line mem
    simp only [lines, List.mem_append, List.mem_cons, List.mem_map, List.not_mem_nil, or_false]
      at mem
    rcases mem with (rfl | rfl | ⟨row, mem, rfl⟩) | rfl
    · exact newLine_not_mem_lineChars t.widths unbroken.1
    · exact newLine_not_mem_ruleChars t.widths
    · exact newLine_not_mem_lineChars t.widths (unbroken.2 row mem)
    · exact newLine_not_mem_banner t.place
  rw [text, String.toList_ofList, List.splitOn_intercalate '\n' whole (List.cons_ne_nil _ _)]

/-- The lines of a table in which no text has a line end: headers and rows in columns that are each
as wide as the widest text in them, a rule with crosses below the bars, and the banner. -/
theorem splitOn_text_aligned (rectangular : t.IsRectangular)
    (unbroken : ∀ cells ∈ t.headers :: t.rows, ∀ text ∈ cells, '\n' ∉ text.toList) :
    ∃ (header rule : List Char) (body : List (List Char)),
      t.text.toList.splitOn '\n' = header :: rule :: body ++ [t.place.banner.toList] ∧
      Aligned t.widths t.headers header ∧ List.Forall₂ (Aligned t.widths) t.rows body ∧
      ∀ k, 1 ≤ k → k < t.headers.length →
        rule[(t.widths.take k).sum + 3 * (k - 1) + 1]? = some '+' := by
  have aligned : ∀ cells ∈ t.headers :: t.rows, Aligned t.widths cells (lineChars t.widths cells) :=
    fun cells mem => aligned_lineChars (forall₂_length_le_widths rectangular mem)
  rw [List.forall_mem_cons] at aligned
  refine ⟨_, _, _, splitOn_text unbroken, aligned.1, ?_, fun k some_column inside => ?_⟩
  · rw [List.forall₂_map_right_iff, List.forall₂_same]
    exact aligned.2
  · exact getElem?_ruleChars some_column (length_widths rectangular ▸ inside)

/-! ## The table of a page -/

section Projection

variable {fields : List String} {page : ResultPage}

theorem ofPage?_eq (some_row : page.rows ≠ []) : ofPage? fields page = some
    { headers := fields, rows := page.rows.map (cells fields), place := page.place } := by
  rw [ofPage?, if_neg (by simpa using some_row)]

/-- Nothing of a row counts but what it has under the fields of the projection. -/
theorem map_cells_congr {rows others : List Members}
    (same : List.Forall₂ (fun row other => ∀ field ∈ fields, row.lookup field = other.lookup field)
      rows others) : rows.map (cells fields) = others.map (cells fields) := by
  induction same with
  | nil => rfl
  | cons same _ ih =>
    rw [List.map_cons, List.map_cons, ih]
    exact congrArg (· :: _) (List.map_congr_left fun field mem => congrArg cell (same field mem))

/-- A page with rows has a table.  Its headers are the projection, and each row of it has the texts
that the row of the page has under the projected fields, and depends on nothing else of that row.
If no header and no cell has a line end in it, the text of the table has three lines more than the
page has rows: the headers, a rule, the rows, and the banner.  Headers and rows stand in columns
that are each as wide as the widest text in them, and the rule has a cross below each bar. -/
theorem ofPage?_laidOut (fields : List String) {page : ResultPage} (some_row : page.rows ≠ []) :
    ∃ t : Table, ofPage? fields page = some t ∧
      t.headers = fields ∧ t.rows.length = page.rows.length ∧
      (∀ (i : Nat) (row : Members), page.rows[i]? = some row →
        ∃ cells, t.rows[i]? = some cells ∧ cells.length = fields.length ∧
          ∀ (j : Nat) (field : String), fields[j]? = some field →
            cells[j]? = some (cell (row.lookup field))) ∧
      (∀ rows : List Members,
        List.Forall₂ (fun row other => ∀ field ∈ fields, row.lookup field = other.lookup field)
          page.rows rows → ofPage? fields { page with rows } = some t) ∧
      ((∀ cells ∈ fields :: t.rows, ∀ text ∈ cells, '\n' ∉ text.toList) →
        (t.text.toList.splitOn '\n').length = page.rows.length + 3 ∧
        ∃ (widths : List Nat) (header rule : List Char) (body : List (List Char)),
          t.text.toList.splitOn '\n' = header :: rule :: body ++ [page.place.banner.toList] ∧
          widths.length = fields.length ∧
          (∀ i < fields.length,
            IsGreatest {n | ∃ cells ∈ fields :: t.rows, (cells.getD i "").length = n}
              (widths.getD i 0)) ∧
          Aligned widths fields header ∧ List.Forall₂ (Aligned widths) t.rows body ∧
          ∀ k, 1 ≤ k → k < fields.length →
            rule[(widths.take k).sum + 3 * (k - 1) + 1]? = some '+') := by
  refine ⟨_, ofPage?_eq some_row, rfl, List.length_map _, fun i row there => ?_,
    fun rows same => ?_, fun unbroken => ?_⟩
  · refine ⟨cells fields row, by rw [List.getElem?_map, there]; rfl, List.length_map _, ?_⟩
    intro j field there
    rw [cells, List.getElem?_map, there]
    rfl
  · have some_other : rows ≠ [] := by
      rintro rfl
      exact some_row (List.length_eq_zero_iff.mp same.length_eq)
    rw [ofPage?_eq some_other, map_cells_congr same]
    rfl
  · have rectangular : Table.IsRectangular
        { headers := fields, rows := page.rows.map (cells fields), place := page.place } := by
      intro cells mem
      obtain ⟨row, -, rfl⟩ := List.mem_map.mp mem
      exact List.length_map _
    obtain ⟨header, rule, body, text, first, rows, crosses⟩ :=
      splitOn_text_aligned rectangular unbroken
    have count := rows.length_eq
    refine ⟨?_, _, header, rule, body, text, length_widths rectangular,
      fun i inside => isGreatest_widths rectangular inside, first, rows, crosses⟩
    rw [text]
    simp only [List.length_append, List.length_cons, List.length_nil, ← count, List.length_map]

/-- A cell with a bar and blanks in it, and one that is absent. -/
theorem ofPage?_laidOut_of_bars :
    let page : ResultPage :=
      { rows := [[("id", .string "5"), ("note", .string " a | b  ")], [("id", .null)]]
        page := 0, totalPages := 1, totalElements := 2 }
    page.rows ≠ [] ∧ ∃ t : Table, ofPage? ["note", "id"] page = some t ∧
      t.rows = [[" a | b  ", "5"], ["", ""]] ∧
      (∀ cells ∈ ["note", "id"] :: t.rows, ∀ text ∈ cells, '\n' ∉ text.toList) ∧
      (t.text.toList.splitOn '\n').length = 5 ∧
      ∃ widths header rule body,
        t.text.toList.splitOn '\n' = header :: rule :: body ++ [page.place.banner.toList] ∧
          Aligned widths ["note", "id"] header ∧ List.Forall₂ (Aligned widths) t.rows body := by
  intro page
  have some_row : page.rows ≠ [] := List.cons_ne_nil _ _
  obtain ⟨t, made, -, -, -, -, layout⟩ := ofPage?_laidOut ["note", "id"] some_row
  cases made
  have unbroken : ∀ line ∈ ["note", "id"] :: page.rows.map (cells ["note", "id"]),
      ∀ text ∈ line, '\n' ∉ text.toList := by decide
  obtain ⟨count, widths, header, rule, body, text, -, -, first, rows, -⟩ := layout unbroken
  exact ⟨some_row, _, rfl, rfl, unbroken, count, widths, header, rule, body, text, first, rows⟩

end Projection

end Table

end EntityQuery
