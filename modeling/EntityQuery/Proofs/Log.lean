import EntityQuery.Log.Event
import EntityQuery.Proofs.Json.Normal
import EntityQuery.Proofs.Json.Text

/-!
# Log lines

A log event is one line, whatever its texts are: no text can end the line early
or leave its place in the object, and the order in which the fields are given
does not show.

## Main Definitions

* `Log.record`: what the line of an event holds.
* `Log.IsLineOf`: a text is one line, and is read as an object of given members.

## Main Statements

* `Log.lineChars_eq`: a line is the text of an object, and a line end.
* `Log.sortFields_perm`, `Log.sorted_sortFields`: fields sorted by their keys.
* `Log.line_read`: an event is one line, which is read as its record.
-/

namespace EntityQuery.Log

variable {fields others : List (String × String)} {severity : Severity} {event : String}

/-! ## Fields in order -/

theorem sortFields_perm (fields : List (String × String)) : (sortFields fields).Perm fields :=
  List.mergeSort_perm fields _

/-- Distinct keys strictly increase once they are sorted. -/
theorem sorted_sortFields (distinct : Members.Distinct fields) :
    Members.Sorted (sortFields fields) := by
  have weakly : (sortFields fields).Pairwise fun f g => decide (f.1 ≤ g.1) := by
    refine List.pairwise_mergeSort (fun f g h fg gh => ?_) (fun f g => ?_) fields
    · exact decide_eq_true (le_trans (of_decide_eq_true fg) (of_decide_eq_true gh))
    · rw [Bool.or_eq_true, decide_eq_true_eq, decide_eq_true_eq]
      exact le_total f.1 g.1
  have apart : (sortFields fields).Pairwise fun f g => f.1 ≠ g.1 :=
    List.pairwise_map.mp (distinct.perm (sortFields_perm fields).symm)
  exact weakly.imp₂ (fun f g le ne => lt_of_le_of_ne (of_decide_eq_true le) ne) apart

/-- Sorting forgets the order in which fields with distinct keys are given. -/
theorem sortFields_eq_of_perm (distinct : Members.Distinct fields) (perm : others.Perm fields) :
    sortFields others = sortFields fields := by
  have sorted := Members.sorted_iff.mp (sorted_sortFields distinct)
  have sorted' := Members.sorted_iff.mp (sorted_sortFields (distinct.perm perm.symm))
  refine sorted'.eq_of_perm sorted ?_
  exact (sortFields_perm others).trans (perm.trans (sortFields_perm fields).symm)

/-! ## Lines -/

/-- What the line of an event holds, the fields in the order in which they are given. -/
def record (severity : Severity) (event : String) (fields : List (String × String)) :
    List (String × String) :=
  ("event", event) :: ("severity", severity.name) :: fields

theorem distinct_record (distinct : Members.Distinct fields)
    (apart : ∀ field ∈ fields, field.1 ≠ "event" ∧ field.1 ≠ "severity") :
    Members.Distinct (record severity event fields) := by
  have noSeverity : "severity" ∉ fields.map (·.1) := fun mem => by
    obtain ⟨field, mem, same⟩ := List.mem_map.mp mem
    exact (apart field mem).2 same
  have noEvent : "event" ∉ "severity" :: fields.map (·.1) := by
    rw [List.mem_cons, not_or]
    refine ⟨by decide, fun mem => ?_⟩
    obtain ⟨field, mem, same⟩ := List.mem_map.mp mem
    exact (apart field mem).1 same
  exact List.nodup_cons.mpr ⟨noEvent, List.nodup_cons.mpr ⟨noSeverity, distinct⟩⟩

theorem compactMembers_strings (fields : List (String × String)) :
    Json.compactMembers (Members.strings fields) = fields.flatMap fieldChars ++ ['\x7d'] := by
  induction fields with
  | nil => rfl
  | cons field fields ih =>
    rw [Members.strings, List.map_cons, ← Members.strings]
    rw [Json.compactMembers, ih, Json.compactChars, List.flatMap_cons, fieldChars]
    simp only [List.cons_append, List.append_assoc]

/-- The line of an event is the text of an object, and a line end. -/
theorem lineChars_eq (severity : Severity) (event : String) (fields : List (String × String)) :
    lineChars severity event fields =
      Json.compactChars (.object (Members.strings (record severity event (sortFields fields)))) ++
        ['\n'] := by
  have rest := compactMembers_strings (("severity", severity.name) :: sortFields fields)
  rw [record, Members.strings, List.map_cons, ← Members.strings, Json.compactChars,
    Json.compactChars, rest, List.flatMap_cons, lineChars]
  simp only [List.cons_append, List.append_assoc, List.nil_append]

theorem visible_of_mem_fieldChars (field : String × String) :
    ∀ c ∈ fieldChars field, 0x20 ≤ c.toNat := by
  simp only [fieldChars, List.forall_mem_cons, List.forall_mem_append]
  exact ⟨by decide, Json.visible_of_mem_quoteChars, by decide, Json.visible_of_mem_quoteChars⟩

/-- No control character stands in the text of an object whose values are all strings. -/
theorem visible_of_mem_strings (fields : List (String × String)) :
    ∀ c ∈ Json.compactChars (.object (Members.strings fields)), 0x20 ≤ c.toNat := by
  cases fields with
  | nil => exact List.forall_mem_cons.mpr ⟨by decide, List.forall_mem_singleton.mpr (by decide)⟩
  | cons field fields =>
    rw [Members.strings, List.map_cons, ← Members.strings, Json.compactChars, Json.compactChars,
      compactMembers_strings]
    simp only [List.forall_mem_cons, List.forall_mem_append]
    have later : ∀ c ∈ fields.flatMap fieldChars, 0x20 ≤ c.toNat := fun c mem => by
      obtain ⟨field, -, mem⟩ := List.mem_flatMap.mp mem
      exact visible_of_mem_fieldChars field c mem
    exact ⟨by decide, Json.visible_of_mem_quoteChars, by decide, Json.visible_of_mem_quoteChars,
      later, by decide, List.forall_mem_nil _⟩

/-- Members whose values are all strings lose none and gain none in memory. -/
theorem normalize_strings (distinct : Members.Distinct fields) :
    ∃ members, (Json.object (Members.strings fields)).normalize = .object members ∧
      members.Perm (Members.strings fields) := by
  have same : (Members.strings fields).map (fun member => (member.1, member.2.normalize)) =
      Members.strings fields := by
    rw [Members.strings, List.map_map]
    rfl
  have distinct' : Members.Distinct (Members.strings fields) := by
    rw [Members.Distinct, Members.strings, List.map_map]
    exact distinct
  exact ⟨_, by rw [Json.normalize_object, same], Members.perm_ofList distinct'⟩

/-- A text is one line, which is read as an object of these members and no others. -/
structure IsLineOf (members : List (String × String)) (text : String) : Prop where
  /-- The only line end is the last character. -/
  ends : ∃ before, text.toList = before ++ ['\n'] ∧ '\n' ∉ before
  distinct : Members.Distinct members
  /-- Read in the order of the text. -/
  read : Json.read text = .ok (.object (Members.strings members))
  /-- Read into memory. -/
  parsed : ∃ sorted, Json.parse text = .ok (.object sorted) ∧
    sorted.Perm (Members.strings members)

/-- The text of an object whose values are all strings, with a line end, is one line. -/
theorem isLineOf_of_chars {members : List (String × String)} {text : String}
    (distinct : Members.Distinct members)
    (chars : text.toList = Json.compactChars (.object (Members.strings members)) ++ ['\n']) :
    IsLineOf members text := by
  have read := Json.read_strings chars (List.forall_mem_singleton.mpr rfl)
  refine ⟨⟨_, chars, fun mem => ?_⟩, distinct, read, ?_⟩
  · exact absurd (visible_of_mem_strings members _ mem) (by decide)
  · obtain ⟨sorted, normal, perm⟩ := normalize_strings distinct
    exact ⟨sorted, by rw [Json.parse, read, Except.map, normal], perm⟩

/-- An event is one line, whatever stands in its texts.  The line is read as the event, the
severity and the fields sorted by their keys, with the texts that were given, and does not depend
on the order of the fields. -/
theorem line_read (severity : Severity) (event : String) (distinct : Members.Distinct fields)
    (apart : ∀ field ∈ fields, field.1 ≠ "event" ∧ field.1 ≠ "severity") :
    ∃ sorted, sorted.Perm fields ∧ Members.Sorted sorted ∧
      IsLineOf (record severity event sorted) (line severity event fields) ∧
      ∀ others, others.Perm fields → line severity event others = line severity event fields := by
  have perm := sortFields_perm fields
  have apart' : ∀ field ∈ sortFields fields, field.1 ≠ "event" ∧ field.1 ≠ "severity" :=
    fun field mem => apart field (perm.mem_iff.mp mem)
  have distinct' : Members.Distinct (record severity event (sortFields fields)) :=
    distinct_record (distinct.perm perm.symm) apart'
  have chars : (line severity event fields).toList = _ :=
    String.toList_ofList.trans (lineChars_eq severity event fields)
  refine ⟨sortFields fields, perm, sorted_sortFields distinct, isLineOf_of_chars distinct' chars,
    fun others reordered => ?_⟩
  rw [line, line, lineChars, lineChars, sortFields_eq_of_perm distinct reordered]

theorem line_read_of_raw_answer :
    IsLineOf [("event", "EXPORT_DIAGNOSTIC"), ("severity", "WARN"), ("code", "\x01"),
        ("raw", "\"\n\\")]
      (line .warn "EXPORT_DIAGNOSTIC" [("raw", "\"\n\\"), ("code", "\x01")]) := by
  have distinct : Members.Distinct [("raw", "\"\n\\"), ("code", "\x01")] := by
    unfold Members.Distinct
    decide
  obtain ⟨sorted, perm, ordered, isLine, -⟩ :=
    line_read .warn "EXPORT_DIAGNOSTIC" distinct (by decide)
  have inOrder : Members.Sorted [("code", "\x01"), ("raw", "\"\n\\")] := by
    unfold Members.Sorted
    decide
  have same : sorted = [("code", "\x01"), ("raw", "\"\n\\")] :=
    (Members.sorted_iff.mp ordered).eq_of_perm (Members.sorted_iff.mp inOrder)
      (perm.trans (.swap _ _ []))
  subst same
  exact isLine

end EntityQuery.Log
