import EntityQuery.Files
import EntityQuery.Proofs.Text

/-!
# Names inside a directory

What a name without a slash leads to from a directory: a child of it, or with
one of the two names made of dots the directory itself or the one above.

## Main Definitions

* `Place.IsChildOf`: a place right inside a directory.
* `FileTree.Enters`: a name leads from one directory to another.

## Main Statements

* `FileTree.locate_eq_ok_iff`: the paths that lead somewhere, and where to.
* `FileTree.locate_joinPath`: a name is looked up in the directory that a path
  leads to.
* `FileTree.isChildOf_follow_iff`: the names that lead to a child.
* `FileTree.write_joinPath`: what is written under a name inside a directory.

## Design Notes

A path may end in slashes or not, and the directory that it leads to need not be
spelled out in it.  The statements speak of the place where the look-up ends.
-/

namespace EntityQuery.FileTree

/-- Where a place is, unless there is none. -/
def Place.path? : Place → Option AbsolutePath
  | .directory path => some path
  | .file path _ => some path
  | .free path => some path
  | .slashed _ => none

/-- A place right inside a directory. -/
def Place.IsChildOf (directory : AbsolutePath) (p : Place) : Prop :=
  ∃ name, p.path? = some (directory ++ [name])

variable {t : FileTree} {directory place : AbsolutePath} {names : List String} {name path : String}
  {found : Place}

/-! ## Following names -/

/-- A name leads from one directory to another. -/
inductive Enters (t : FileTree) (directory : AbsolutePath) : String → AbsolutePath → Prop where
  | stays {name : String} (same : name = "" ∨ name = ".") : Enters t directory name directory
  | up : Enters t directory ".." directory.dropLast
  | down {name : String} (other : ¬(name = "" ∨ name = ".")) (notUp : name ≠ "..")
    (short : ¬255 < name.utf8ByteSize) (there : t.directories.contains (directory ++ [name])) :
    Enters t directory name (directory ++ [name])

theorem Enters.follow_cons (enters : t.Enters directory name place) (rest : List String) :
    t.follow directory (name :: rest) = t.follow place rest := by
  rw [follow]
  simp only [Bool.or_eq_true, decide_eq_true_eq]
  cases enters with
  | stays same => rw [if_pos same]
  | up => rfl
  | down other notUp short there =>
    rw [if_neg other, if_neg notUp, if_neg short, if_pos there]

/-- Only names that lead from one directory to another stand on the way to a directory. -/
theorem exists_enters (leads : t.follow directory (name :: names) = .ok (.directory place)) :
    ∃ next, t.Enters directory name next := by
  rw [follow] at leads
  simp only [Bool.or_eq_true, decide_eq_true_eq] at leads
  by_cases same : name = "" ∨ name = "."
  · exact ⟨_, .stays same⟩
  by_cases up : name = ".."
  · exact ⟨_, by rw [up]; exact .up⟩
  rw [if_neg same, if_neg up] at leads
  by_cases long : 255 < name.utf8ByteSize
  · rw [if_pos long] at leads
    cases leads
  by_cases there : t.directories.contains (directory ++ [name])
  · exact ⟨_, .down same up long there⟩
  -- What is no directory is where the way ends, and not at a directory.
  rw [if_neg long, if_neg there] at leads
  split at leads <;> (try split at leads) <;> cases leads

/-- What follows the way to a directory is looked up there. -/
theorem follow_append (leads : t.follow directory names = .ok (.directory place))
    (more : List String) : t.follow directory (names ++ more) = t.follow place more := by
  induction names generalizing directory with
  | nil =>
    cases leads
    rfl
  | cons name rest ih =>
    obtain ⟨next, enters⟩ := exists_enters leads
    rw [enters.follow_cons] at leads
    rw [List.cons_append, enters.follow_cons]
    exact ih leads

/-- A slash at the end of the way to a directory can be left out. -/
theorem follow_of_slash (leads : t.follow directory (names ++ [""]) = .ok (.directory place)) :
    t.follow directory names = .ok (.directory place) := by
  induction names generalizing directory with
  | nil => exact leads
  | cons name rest ih =>
    obtain ⟨next, enters⟩ := exists_enters leads
    rw [List.cons_append, enters.follow_cons] at leads
    rw [enters.follow_cons]
    exact ih leads

/-! ## One name -/

/-- The two names made of dots lead to a directory. -/
theorem exists_directory_of_dots (dots : name = "." ∨ name = "..") (place : AbsolutePath) :
    ∃ other, t.follow place [name] = .ok (.directory other) ∧ other.length ≤ place.length := by
  rcases dots with rfl | rfl
  · exact ⟨place, (Enters.stays (.inr rfl)).follow_cons [], le_refl _⟩
  · exact ⟨place.dropLast, Enters.up.follow_cons [], by simp⟩

/-- Any other name leads to the child of that name. -/
theorem path?_of_follow (some_char : name ≠ "") (other : ¬(name = "." ∨ name = ".."))
    (leads : t.follow place [name] = .ok found) : found.path? = some (place ++ [name]) := by
  rw [not_or] at other
  rw [follow] at leads
  simp only [Bool.or_eq_true, decide_eq_true_eq] at leads
  rw [if_neg (not_or.mpr ⟨some_char, other.1⟩), if_neg other.2] at leads
  by_cases long : 255 < name.utf8ByteSize
  · rw [if_pos long] at leads
    cases leads
  by_cases there : t.directories.contains (place ++ [name])
  · rw [if_neg long, if_pos there] at leads
    cases leads
    rfl
  · rw [if_neg long, if_neg there] at leads
    cases content : t.files.lookup (place ++ [name]) <;> rw [content] at leads <;> cases leads <;>
      rfl

/-- From a directory a name leads to a child exactly if it is not made of dots. -/
theorem isChildOf_follow_iff (some_char : name ≠ "") (leads : t.follow place [name] = .ok found) :
    found.IsChildOf place ↔ ¬(name = "." ∨ name = "..") := by
  refine ⟨fun child dots => ?_, fun other => ⟨name, path?_of_follow some_char other leads⟩⟩
  obtain ⟨above, ends, shorter⟩ := exists_directory_of_dots (t := t) dots place
  rw [ends] at leads
  cases leads
  obtain ⟨child, path⟩ := child
  cases path
  rw [List.length_append, List.length_singleton] at shorter
  omega

/-! ## Joined paths -/

theorem endsWith_slash_iff : path.endsWith "/" ↔ ['/'] <:+ path.toList := by
  change path.toSlice.endsWith "/" ↔ _
  rw [String.Slice.endsWith_string_iff, String.copy_toSlice]
  rfl

theorem startsWith_slash_eq_false (flat : '/' ∉ name.toList) : name.startsWith "/" = false := by
  rw [String.startsWith_string_eq_false_iff]
  exact fun front => flat (front.subset List.mem_cons_self)

/-- A name is joined with a slash, unless the path has one at its end. -/
theorem joinPath_eq (some_path : path ≠ "") (flat : '/' ∉ name.toList) :
    joinPath path name = if ['/'] <:+ path.toList then path ++ name else path ++ "/" ++ name := by
  have notEmpty : path.isEmpty = false := by simpa using some_path
  rw [joinPath, startsWith_slash_eq_false flat, notEmpty, if_neg (by decide)]
  simp only [endsWith_slash_iff]

/-- A joined path is the path, apart from one slash at its end, and behind a slash the name. -/
theorem exists_joinPath_eq (some_path : path ≠ "") (flat : '/' ∉ name.toList) :
    ∃ front, (joinPath path name).toList = front ++ '/' :: name.toList ∧
      (path.toList = front ∨ path.toList = front ++ ['/']) := by
  rw [joinPath_eq some_path flat]
  split_ifs with slash
  · obtain ⟨front, ends⟩ := slash
    refine ⟨front, ?_, .inr ends.symm⟩
    rw [String.toList_append, ← ends, List.append_assoc, List.singleton_append]
  · refine ⟨path.toList, ?_, .inl rfl⟩
    rw [String.toList_append, String.toList_append, List.append_assoc]
    rfl

/-- The names in a joined path are those of the path, apart from a slash at its end, and the name
that was joined to it. -/
theorem pieces_joinPath (some_path : path ≠ "") (flat : '/' ∉ name.toList) :
    ∃ names, Text.pieces (· == '/') (joinPath path name) = names ++ [name] ∧
      (Text.pieces (· == '/') path = names ∨ Text.pieces (· == '/') path = names ++ [""]) := by
  have alone : Text.splitOn (· == '/') name.toList = [name.toList] :=
    Text.splitOn_eq_singleton fun c mem => beq_false_of_ne fun slash => flat (slash ▸ mem)
  obtain ⟨front, joined, path_eq⟩ := exists_joinPath_eq some_path flat
  refine ⟨(Text.splitOn (· == '/') front).map String.ofList, ?_, ?_⟩
  · rw [Text.pieces, joined, Text.splitOn_append_cons rfl, alone, List.map_append,
      List.map_singleton, String.ofList_toList]
  · rcases path_eq with same | same
    · exact .inl (by rw [Text.pieces, same])
    · right
      rw [Text.pieces, same, Text.splitOn_append_cons rfl, List.map_append]
      rfl

/-- Joining a name to a path does not change where the path starts. -/
theorem isPrefix_joinPath_iff (some_path : path ≠ "") (flat : '/' ∉ name.toList) :
    ['/'] <+: (joinPath path name).toList ↔ ['/'] <+: path.toList := by
  obtain ⟨front, joined, path_eq⟩ := exists_joinPath_eq some_path flat
  rw [joined]
  have some_char : path.toList ≠ [] := by simpa using some_path
  cases front with
  | nil =>
    rcases path_eq with same | same
    · exact absurd same some_char
    · rw [same]
      simp
  | cons c front => rcases path_eq with same | same <;> rw [same] <;> simp

/-- A path leads somewhere exactly if it can be a path at all, and its names do from where it
starts. -/
theorem locate_eq_ok_iff :
    t.locate path = .ok found ↔
      path ≠ "" ∧ Char.ofNat 0 ∉ path.toList ∧ path.utf8ByteSize < 4096 ∧
      t.follow (if ['/'] <+: path.toList then [] else t.workingDirectory)
        (Text.pieces (· == '/') path) = .ok found := by
  have isEmpty : path.isEmpty = true ↔ path = "" := String.isEmpty_iff
  have hasNul : path.contains (Char.ofNat 0) = true ↔ Char.ofNat 0 ∈ path.toList := by simp
  have rooted : path.startsWith "/" = true ↔ ['/'] <+: path.toList := String.startsWith_string_iff
  simp only [locate, isEmpty, hasNul, rooted]
  by_cases empty : path = ""
  · rw [if_pos empty]
    exact iff_of_false nofun fun h => h.1 empty
  by_cases nul : Char.ofNat 0 ∈ path.toList
  · rw [if_neg empty, if_pos nul]
    exact iff_of_false nofun fun h => h.2.1 nul
  by_cases long : 4096 ≤ path.utf8ByteSize
  · rw [if_neg empty, if_neg nul, if_pos long]
    exact iff_of_false nofun fun h => Nat.not_lt.mpr long h.2.2.1
  rw [if_neg empty, if_neg nul, if_neg long]
  exact ⟨fun leads => ⟨empty, nul, Nat.not_le.mp long, leads⟩, fun h => h.2.2.2⟩

/-- A name is looked up in the directory that the path leads to. -/
theorem locate_joinPath (inside : t.locate path = .ok (.directory place))
    (flat : '/' ∉ name.toList) (there : t.locate (joinPath path name) = .ok found) :
    t.follow place [name] = .ok found := by
  obtain ⟨some_path, -, -, inside⟩ := locate_eq_ok_iff.mp inside
  obtain ⟨-, -, -, there⟩ := locate_eq_ok_iff.mp there
  obtain ⟨names, joined, path_eq⟩ := pieces_joinPath some_path flat
  simp only [isPrefix_joinPath_iff some_path flat, joined] at there
  rcases path_eq with same | same <;> rw [same] at inside
  · rwa [follow_append inside] at there
  · rwa [follow_append (follow_of_slash inside)] at there

theorem isDirectory_of_locate (inside : t.locate path = .ok (.directory place)) :
    t.isDirectory path = true := by
  rw [isDirectory, inside]

/-- What is written under a name inside a directory is written to the child of that name. -/
theorem write_joinPath {after : FileTree} {content : List UInt8}
    (inside : t.locate path = .ok (.directory place)) (some_char : name ≠ "")
    (flat : '/' ∉ name.toList) (written : t.write (joinPath path name) content = .ok after) :
    ¬(name = "." ∨ name = "..") ∧ after = t.store (place ++ [name]) content := by
  rw [write] at written
  cases there : t.locate (joinPath path name) with
  | error e =>
    rw [there] at written
    cases written
  | ok found =>
    rw [there] at written
    have leads := locate_joinPath inside flat there
    have other : ¬(name = "." ∨ name = "..") := fun dots => by
      obtain ⟨above, ends, -⟩ := exists_directory_of_dots (t := t) dots place
      rw [ends] at leads
      cases leads
      cases written
    have path := path?_of_follow some_char other leads
    cases found with
    | directory | slashed => cases written
    | file | free =>
      cases path
      cases written
      exact ⟨other, rfl⟩

end EntityQuery.FileTree
