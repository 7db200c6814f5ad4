import EntityQuery.Json.Source
import EntityQuery.Proofs.Except
import EntityQuery.Proofs.Json.Members

/-!
# Reading records from values

A record is read field by field, from the members of an object or from the
items of an array.  What each field keeps, the whole record keeps.  And if each
member of an object stores a part of the record, then the object is read as the
record with all the parts.

## Main Definitions

* `Field.Keeps`: a field leaves a property of records alone.
* `StoredBy`: a member is read by storing a part of the record.

## Main Statements

* `FromValue.record_keeps`: invariants of reading a record, whatever the value
  and its form.
* `FromValue.record_object`: reading an object whose members are all known.
* `FromValue.list_map`: reading an array item by item.
-/

namespace EntityQuery.Json

variable {α β : Type}

/-! ## Parts of a record -/

/-- Reading a field keeps a property of records. -/
def Field.Keeps (P : β → Prop) (f : Field FromValue β) : Prop :=
  ∀ b v b', P b → f.read b v = .ok b' → P b'

/-- The field that has the name of a member is read from its value by storing a part. -/
def StoredBy (fields : List (Field FromValue β)) (member : String × Json) (store : β → β) : Prop :=
  ∃ f, fields.find? (·.name == member.1) = some f ∧ ∀ b, f.read b member.2 = .ok (store b)

theorem missingField?_eq_none_iff {fields : List (Field FromValue β)} {seen : List String} :
    missingField? fields seen = none ↔ ∀ f ∈ fields, f.required → f.name ∈ seen := by
  rw [missingField?, Option.map_eq_none_iff, List.find?_eq_none]
  simp

namespace FromValue

theorem text_string (s : String) : (Source.text : FromValue String) (.string s) = .ok s :=
  rfl

theorem flag_bool (b : Bool) : (Source.flag : FromValue Bool) (.bool b) = .ok b :=
  rfl

theorem natural_of_lt {n bound : Nat} (below : n < bound) (expected : String) :
    (Source.natural bound expected : FromValue Nat) (.number (.integer n)) = .ok n :=
  if_pos ⟨Int.natCast_nonneg n, Int.ofNat_lt.mpr below⟩

theorem bind_eq_ok_iff {part : FromValue α} {next : α → FromValue β} {v : Json} {b : β} :
    (do next (← part) : FromValue β) v = .ok b ↔ ∃ a, part v = .ok a ∧ next a v = .ok b :=
  Except.bind_eq_ok_iff

/-- To read a part and store it is to read the part. -/
theorem store_eq_ok_iff {part : FromValue α} {store : α → β} {v : Json} {b : β} :
    (do return store (← part) : FromValue β) v = .ok b ↔ ∃ a, part v = .ok a ∧ store a = b := by
  refine bind_eq_ok_iff.trans (exists_congr fun a => and_congr_right fun _ => ?_)
  constructor
  · exact Except.ok.inj
  · rintro rfl
    rfl

/-- A field keeps what storing any part that it reads keeps. -/
theorem keeps_store {P : β → Prop} {name : String} {required : Bool} {part : FromValue α}
    {store : β → α → β} (kept : ∀ b a v, part v = .ok a → P b → P (store b a)) :
    Field.Keeps P ⟨name, required, fun b => do return store b (← part)⟩ := by
  intro b v b' start read
  obtain ⟨a, isPart, rfl⟩ := store_eq_ok_iff.mp read
  exact kept b a v isPart start

/-- A member is stored if the part of its field is read from its value. -/
theorem storedBy_of_read {fields : List (Field FromValue β)} {name : String} {v : Json}
    {required : Bool} {part : FromValue α} {store : β → α → β} {a : α} {update : β → β}
    (found : fields.find? (·.name == name) =
      some ⟨name, required, fun b => do return store b (← part)⟩)
    (read : part v = .ok a) (stores : ∀ b, store b a = update b) :
    StoredBy fields (name, v) update :=
  ⟨_, found, fun b => store_eq_ok_iff.mpr ⟨a, read, stores b⟩⟩

/-! ## Invariants -/

section Invariants

variable {P : β → Prop} {fields : List (Field FromValue β)}

theorem readMembers_keeps (keeps : ∀ f ∈ fields, f.Keeps P) {members : List (String × Json)}
    {seen : List String} {b : β} {result : β × List String} (start : P b)
    (read : readMembers fields members seen b = .ok result) : P result.1 := by
  induction members generalizing seen b with
  | nil =>
    cases read
    exact start
  | cons member rest ih =>
    obtain ⟨name, v⟩ := member
    rw [readMembers] at read
    split at read
    · exact ih start read
    · rename_i f found
      split at read
      · cases read
      · obtain ⟨b', stored, read⟩ := Except.bind_eq_ok_iff.mp read
        exact ih (keeps f (List.mem_of_find?_eq_some found) _ _ _ start stored) read

theorem readFields_keeps (keeps : ∀ f ∈ fields, f.Keeps P) {tooFew : Nat → Cause} {tooMany : Cause}
    {items : List Json} {i : Nat} {b result : β} (start : P b)
    (read : readFields tooFew tooMany fields items i b = .ok result) : P result := by
  induction fields generalizing items i b with
  | nil =>
    cases items with
    | nil =>
      cases read
      exact start
    | cons => cases read
  | cons f fields ih =>
    obtain ⟨keepsHead, keeps⟩ := List.forall_mem_cons.mp keeps
    cases items with
    | nil =>
      rw [readFields] at read
      split at read
      · cases read
      · exact ih keeps start read
    | cons v rest =>
      obtain ⟨b', stored, read⟩ := Except.bind_eq_ok_iff.mp read
      exact ih keeps (keepsHead _ _ _ start stored) read

/-- What the blank record has and every field keeps, the record has that was read. -/
theorem record_keeps (keeps : ∀ f ∈ fields, f.Keeps P) {name : String} {blank result : β}
    {v : Json} (start : P blank)
    (read : (Source.record name fields blank : FromValue β) v = .ok result) : P result := by
  cases v with
  | object members =>
    obtain ⟨⟨b, seen⟩, stored, read⟩ := Except.bind_eq_ok_iff.mp read
    have kept : P b := readMembers_keeps keeps start stored
    dsimp only at read
    split at read
    · cases read
    · cases read
      exact kept
  | array items => exact readFields_keeps keeps start read
  | _ => cases read

end Invariants

/-! ## Known members -/

section Known

variable {fields : List (Field FromValue β)}

/-- Members with distinct names store their parts one after the other. -/
theorem readMembers_eq {members : List (String × Json)} {stores : List (β → β)}
    (stored : List.Forall₂ (StoredBy fields) members stores) {seen : List String}
    (distinct : (members.map (·.1)).Nodup) (fresh : ∀ member ∈ members, member.1 ∉ seen) (b : β) :
    readMembers fields members seen b =
      .ok (stores.foldl (fun b store => store b) b, (members.map (·.1)).reverse ++ seen) := by
  induction stored generalizing seen b with
  | nil => rfl
  | @cons member store members stores head _ ih =>
    obtain ⟨name, v⟩ := member
    obtain ⟨f, found, read⟩ := head
    obtain ⟨unseen, fresh⟩ := List.forall_mem_cons.mp fresh
    obtain ⟨once, distinct⟩ := List.nodup_cons.mp distinct
    have fresh' : ∀ member ∈ members, member.1 ∉ name :: seen := by
      intro member mem
      refine List.not_mem_cons_of_ne_of_not_mem (fun same => once ?_) (fresh member mem)
      exact List.mem_map.mpr ⟨member, mem, same⟩
    have step : readMembers fields ((name, v) :: members) seen b =
        readMembers fields members (name :: seen) (store b) := by
      rw [readMembers, found]
      simp only [List.contains_iff_mem, if_neg unseen, read]
      rfl
    rw [step, ih distinct fresh', List.map_cons, List.reverse_cons, List.append_assoc]
    rfl

/-- An object with a member for every required field, and with known members only, is read as the
blank record with their parts stored. -/
theorem record_object {members : List (String × Json)} (stores : List (β → β))
    (stored : List.Forall₂ (StoredBy fields) members stores) (distinct : Members.Distinct members)
    (complete : ∀ f ∈ fields, f.required → f.name ∈ members.map (·.1)) (name : String)
    (blank : β) :
    (Source.record name fields blank : FromValue β) (.object members) =
      .ok (stores.foldl (fun b store => store b) blank) := by
  have missing : missingField? fields ((members.map (·.1)).reverse ++ []) = none := by
    rw [missingField?_eq_none_iff]
    simpa using complete
  change readRecord name fields blank (.object members) = _
  rw [readRecord, readMembers_eq stored distinct fun _ _ => List.not_mem_nil]
  simp only [bind, Except.bind, missing]
  rfl

end Known

/-- An array is read back if its items are. -/
theorem list_map {item : FromValue α} {write : α → Json} {as : List α}
    (each : ∀ a ∈ as, item (write a) = .ok a) :
    (Source.list item : FromValue (List α)) (.array (as.map write)) = .ok as := by
  change readItems item (as.map write) = .ok as
  induction as with
  | nil => rfl
  | cons a as ih =>
    obtain ⟨head, rest⟩ := List.forall_mem_cons.mp each
    rw [List.map_cons, readItems, head, ih rest]
    rfl

end FromValue

end EntityQuery.Json
