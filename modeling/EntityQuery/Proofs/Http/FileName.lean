import EntityQuery.Rehearsal
import EntityQuery.Proofs.Except
import EntityQuery.Proofs.Files

/-!
# The name of a fetched file

A fetched file is named by a header of its reply, or else by the handle for
which it was asked.  Both are cut at slashes, and neither name is empty.  The two
names made of dots pass as they are.

## Main Definitions

* `IsPlainName`: the name of a file inside a directory.
* `Http.chosenName`: the name that a header value and a handle give a file.
* `ExportHandle.EndsIn`, `Disposition.Suggests`: a name stands where a handle or a
  header value has it.
* `Http.Leads`: a name stands where the two together have it.

## Main Statements

* `ExportHandle.fileName_eq_iff`, `Disposition.fileName?_eq_some_iff`: the names
  in handles and header values.
* `Http.chosenName_saved`: what is chosen is plain unless dots are named, and only
  under a plain name anything is written inside a directory.
-/

namespace EntityQuery

/-- The name of a file inside a directory, whichever kind of slash separates names. -/
structure IsPlainName (name : String) : Prop where
  some_char : name ≠ ""
  flat : ∀ c ∈ name.toList, ExportHandle.isSlash c = false
  noDots : ¬(name = "." ∨ name = "..")

/-! ## Names in handles -/

namespace ExportHandle

variable {h : ExportHandle} {name : String}

/-- A name stands behind the last slash of a handle, slashes at its end apart. -/
def EndsIn (h : ExportHandle) (name : String) : Prop :=
  ∃ body slashes, h.path.toList = body ++ slashes ∧ (∀ c ∈ slashes, isSlash c) ∧
    Text.IsLastPiece isSlash name.toList body ∧ name ≠ ""

/-- A handle that is not all slashes ends in a name. -/
theorem exists_endsIn (other : ¬∀ c ∈ h.path.toList, isSlash c) : ∃ name, h.EndsIn name := by
  have some_char : h.path.toList.rdropWhile isSlash ≠ [] := mt List.rdropWhile_eq_nil_iff.mp other
  obtain ⟨piece, last⟩ := Text.exists_isLastPiece isSlash (h.path.toList.rdropWhile isSlash)
  refine ⟨.ofList piece, _, _, List.rdropWhile_append_rtakeWhile.symm,
    fun c mem => List.mem_rtakeWhile_imp mem, by rwa [String.toList_ofList], fun none => ?_⟩
  -- An empty name would leave a slash at the end of what has none there.
  obtain ⟨front, whole, separates, -⟩ := last
  rw [String.ofList_eq_empty_iff.mp none, List.append_nil] at whole
  refine List.rdropWhile_last_not isSlash _ some_char (separates _ ?_)
  rw [← whole]
  exact List.getLast?_eq_some_getLast some_char

theorem EndsIn.fileName_eq (ends : h.EndsIn name) : h.fileName = name := by
  obtain ⟨body, slashes, whole, separate, last, some_char⟩ := ends
  obtain ⟨pieces, cut⟩ := last.exists_splitOn
  rw [fileName, Text.pieces, whole, Text.splitOn_append_separators body separate, cut]
  simp only [List.map_append, List.map_singleton, List.map_replicate, String.ofList_toList,
    List.reverse_append, List.reverse_replicate, List.reverse_singleton, List.find?_append]
  simp [some_char]

theorem fileName_eq_export (slashes : ∀ c ∈ h.path.toList, isSlash c) : h.fileName = "export" := by
  have cut := Text.splitOn_append_separators [] slashes
  rw [List.nil_append] at cut
  rw [fileName, Text.pieces, cut]
  simp [Text.splitOn]

/-- The name in a handle is that in which it ends; a handle of slashes has a name of its own. -/
theorem fileName_eq_iff :
    h.fileName = name ↔
      h.EndsIn name ∨ (∀ c ∈ h.path.toList, isSlash c) ∧ name = "export" := by
  constructor
  · rintro rfl
    by_cases slashes : ∀ c ∈ h.path.toList, isSlash c
    · exact .inr ⟨slashes, fileName_eq_export slashes⟩
    · obtain ⟨name, ends⟩ := exists_endsIn slashes
      rw [ends.fileName_eq]
      exact .inl ends
  · rintro (ends | ⟨slashes, rfl⟩)
    · exact ends.fileName_eq
    · exact fileName_eq_export slashes

theorem isSlash_of_mem_fileName (h : ExportHandle) :
    ∀ c ∈ h.fileName.toList, isSlash c = false := by
  rcases fileName_eq_iff.mp (rfl : h.fileName = _) with
    ⟨_, _, _, _, ⟨_, _, _, flat⟩, _⟩ | ⟨_, name⟩
  · exact flat
  · have own : "export".toList.all (!isSlash ·) := by decide
    rw [name]
    exact fun c mem => by simpa using List.all_eq_true.mp own c mem

end ExportHandle

/-! ## Names in header values -/

namespace Disposition

variable {header : String} {parameter s name : List Char}

theorem lastSegment_eq_iff :
    lastSegment s = name ↔ Text.IsLastPiece ExportHandle.isSlash name s := by
  rw [lastSegment, ← Text.getLast?_splitOn_eq_some_iff,
    List.getLast?_eq_some_getLast (Text.splitOn_ne_nil ExportHandle.isSlash s), Option.getD_some,
    Option.some.injEq]

/-- A parameter is a file name, of which this stands behind the last slash. -/
def Names (parameter name : List Char) : Prop :=
  ∃ key value, Text.cutFirst '=' (Text.trim parameter) = some (key, value) ∧
    (Text.trim key).map Char.toLower = "filename".toList ∧
    Text.IsLastPiece ExportHandle.isSlash name (unquoted (Text.trim value)) ∧ name ≠ []

theorem parameterName?_eq_some_iff :
    parameterName? parameter = some name ↔ Names parameter name := by
  rw [parameterName?, Names]
  cases Text.cutFirst '=' (Text.trim parameter) with
  | none => simp
  | some sides =>
    obtain ⟨key, value⟩ := sides
    simp only [← lastSegment_eq_iff, Option.some.injEq, Prod.mk.injEq]
    constructor
    · intro named
      split_ifs at named with isName none
      cases named
      exact ⟨key, value, ⟨rfl, rfl⟩, isName, rfl, none⟩
    · rintro ⟨_, _, ⟨rfl, rfl⟩, isName, rfl, some_char⟩
      rw [if_pos isName, if_neg some_char]

/-- Of the parameters of a header value that are file names, the first has this name. -/
def Suggests (header name : String) : Prop :=
  ∃ before parameter after,
    Text.splitOn (· == ';') header.toList = before ++ parameter :: after ∧
    (∀ p ∈ before, ∀ other, ¬Names p other) ∧ Names parameter name.toList

theorem fileName?_eq_some_iff {name : String} :
    fileName? header = some name ↔ Suggests header name := by
  have silent (p : List Char) : parameterName? p = none ↔ ∀ other, ¬Names p other := by
    rw [Option.eq_none_iff_forall_ne_some]
    exact forall_congr' fun other => not_congr parameterName?_eq_some_iff
  have found {name : List Char} :
      (Text.splitOn (· == ';') header.toList).findSome? parameterName? = some name ↔
        Suggests header (.ofList name) := by
    simp only [List.findSome?_eq_some_iff, Suggests, silent, parameterName?_eq_some_iff,
      String.toList_ofList]
    constructor
    · rintro ⟨before, parameter, after, cut, named, none⟩
      exact ⟨before, parameter, after, cut, none, named⟩
    · rintro ⟨before, parameter, after, cut, none, named⟩
      exact ⟨before, parameter, after, cut, named, none⟩
  rw [fileName?, Option.map_eq_some_iff]
  constructor
  · rintro ⟨chars, named, rfl⟩
    exact found.mp named
  · intro suggests
    refine ⟨name.toList, found.mpr ?_, String.ofList_toList⟩
    rwa [String.ofList_toList]

theorem Names.isSlash (names : Names parameter name) :
    ∀ c ∈ name, ExportHandle.isSlash c = false := by
  obtain ⟨_, _, _, _, ⟨_, _, _, flat⟩, _⟩ := names
  exact flat

end Disposition

/-! ## Saving inside a directory -/

/-- Inside a directory a fetched file is saved under its name. -/
theorem Rehearsal.save_apply (r : Rehearsal) (file : ExportedFile) {path : String}
    {place : AbsolutePath} (inside : r.files.locate path = .ok (.directory place)) :
    host.save file path r =
      match r.files.write (joinPath path file.name) file.bytes with
      | .ok files => (.ok (joinPath path file.name), { r with files })
      | .error e => (.error e, r) := by
  have isDirectory := FileTree.isDirectory_of_locate inside
  have writes (target : String) : host.write target file.bytes r =
      match r.files.write target file.bytes with
      | .ok files => (.ok (), { r with files })
      | .error e => (.error e, r) := rfl
  change (fun target => ((host.write target file.bytes r).1.map fun _ => target,
    (host.write target file.bytes r).2)) (if r.files.isDirectory path then _ else _) = _
  rw [isDirectory, if_pos rfl]
  dsimp only
  rw [writes]
  cases r.files.write (joinPath path file.name) file.bytes <;> rfl

/-! ## The name that is chosen -/

namespace Http

variable {header : Option String} {handle : ExportHandle} {name : String}

/-- The name that a header value, if there is one, and a handle give a file. -/
def chosenName (header : Option String) (handle : ExportHandle) : String :=
  (header.bind Disposition.fileName?).getD handle.fileName

theorem Reply.eq_of_checked {reply same : Reply} (succeeded : reply.checked = .ok same) :
    same = reply := by
  rw [Reply.checked] at succeeded
  split_ifs at succeeded
  exact (Except.ok.inj succeeded).symm

theorem Reply.name_eq_chosenName {reply : Reply} {file : ExportedFile}
    (fetched : reply.file handle = .ok file) :
    file.name = chosenName (reply.header? "content-disposition") handle := by
  obtain ⟨same, succeeded, fetched⟩ := Except.bind_eq_ok_iff.mp fetched
  obtain ⟨bytes, -, fetched⟩ := Except.bind_eq_ok_iff.mp fetched
  cases fetched
  rw [Reply.eq_of_checked succeeded]
  rfl

/-- A name stands where a header value has the name of a file, or else where the handle has it. -/
def Leads (header : Option String) (handle : ExportHandle) (name : String) : Prop :=
  (∃ value, header = some value ∧ Disposition.Suggests value name) ∨
    (∀ value, header = some value → ∀ other, ¬Disposition.Suggests value other) ∧
      handle.EndsIn name

theorem bind_fileName?_eq_some_iff :
    header.bind Disposition.fileName? = some name ↔
      ∃ value, header = some value ∧ Disposition.Suggests value name := by
  rw [Option.bind_eq_some_iff]
  exact exists_congr fun value => and_congr_right fun _ => Disposition.fileName?_eq_some_iff

theorem bind_fileName?_eq_none_iff :
    header.bind Disposition.fileName? = none ↔
      ∀ value, header = some value → ∀ other, ¬Disposition.Suggests value other := by
  rw [Option.bind_eq_none_iff]
  refine forall₂_congr fun value _ => ?_
  rw [Option.eq_none_iff_forall_ne_some]
  exact forall_congr' fun other => not_congr Disposition.fileName?_eq_some_iff

/-- The name that is chosen is the one that stands there. -/
theorem chosenName_eq_iff (other : name ≠ "export") :
    chosenName header handle = name ↔ Leads header handle name := by
  rw [chosenName, Leads, ← bind_fileName?_eq_some_iff, ← bind_fileName?_eq_none_iff]
  cases header.bind Disposition.fileName? with
  | none => simp [ExportHandle.fileName_eq_iff, other]
  | some suggested => simp

theorem chosenName_ne_empty (header : Option String) (handle : ExportHandle) :
    chosenName header handle ≠ "" := by
  intro empty
  rcases (chosenName_eq_iff (by decide)).mp empty with ⟨value, _, suggests⟩ | ⟨_, ends⟩
  · obtain ⟨_, _, _, _, _, _, _, _, _, _, some_char⟩ := suggests
    exact some_char rfl
  · obtain ⟨_, _, _, _, _, some_char⟩ := ends
    exact some_char rfl

theorem isSlash_of_mem_chosenName (header : Option String) (handle : ExportHandle) :
    ∀ c ∈ (chosenName header handle).toList, ExportHandle.isSlash c = false := by
  rw [chosenName]
  cases suggested : header.bind Disposition.fileName? with
  | none => exact handle.isSlash_of_mem_fileName
  | some name =>
    obtain ⟨value, _, _, _, _, _, _, names⟩ := bind_fileName?_eq_some_iff.mp suggested
    exact names.isSlash

/-- What is chosen is a plain name, unless dots stand where the name does. -/
theorem isPlainName_chosenName_iff :
    IsPlainName (chosenName header handle) ↔
      ¬(Leads header handle "." ∨ Leads header handle "..") := by
  rw [← chosenName_eq_iff (by decide), ← chosenName_eq_iff (by decide)]
  exact ⟨IsPlainName.noDots, fun noDots =>
    ⟨chosenName_ne_empty header handle, isSlash_of_mem_chosenName header handle, noDots⟩⟩

/-- The name of a fetched file is never empty and has no slash.  It is a plain name, and leads from
a directory to a child of it, unless dots stand where the header value or the handle has the name.
Then saving inside a directory fails; in any case it writes nothing but the child of that name. -/
theorem chosenName_saved (header : Option String) (handle : ExportHandle) :
    let name := chosenName header handle
    (name ≠ "" ∧ ∀ c ∈ name.toList, ExportHandle.isSlash c = false) ∧
    (IsPlainName name ↔ ¬(Leads header handle "." ∨ Leads header handle "..")) ∧
    (∀ (t : FileTree) path place found, t.locate path = .ok (.directory place) →
      t.locate (joinPath path name) = .ok found → (found.IsChildOf place ↔ IsPlainName name)) ∧
    (∀ (reply : Reply) file, reply.header? "content-disposition" = header →
      reply.file handle = .ok file → file.name = name ∧
      ∀ (r : Rehearsal) path place, r.files.locate path = .ok (.directory place) →
        (∃ e, Rehearsal.host.save file path r = (.error e, r)) ∨
        IsPlainName name ∧ Rehearsal.host.save file path r =
          (.ok (joinPath path name),
            { r with files := r.files.store (place ++ [name]) file.bytes })) := by
  intro name
  have some_char : name ≠ "" := chosenName_ne_empty header handle
  have noSlash : ∀ c ∈ name.toList, ExportHandle.isSlash c = false :=
    isSlash_of_mem_chosenName header handle
  have flat : '/' ∉ name.toList := fun slash => Bool.noConfusion (noSlash '/' slash)
  have plain : IsPlainName name ↔ ¬(name = "." ∨ name = "..") :=
    ⟨IsPlainName.noDots, fun noDots => ⟨some_char, noSlash, noDots⟩⟩
  refine ⟨⟨some_char, noSlash⟩, isPlainName_chosenName_iff, ?_, ?_⟩
  · intro t path place found inside there
    rw [plain]
    exact FileTree.isChildOf_follow_iff some_char (FileTree.locate_joinPath inside flat there)
  · rintro reply file rfl fetched
    have named : file.name = name := Reply.name_eq_chosenName fetched
    refine ⟨named, fun r path place inside => ?_⟩
    rw [r.save_apply file inside, named]
    cases written : r.files.write (joinPath path name) file.bytes with
    | error e => exact .inl ⟨e, rfl⟩
    | ok files =>
      obtain ⟨noDots, stored⟩ := FileTree.write_joinPath inside some_char flat written
      exact .inr ⟨plain.mpr noDots, by rw [stored]⟩

theorem chosenName_saved_of_report :
    let reply : Reply :=
      { status := 200
        headers := [("Content-Disposition",
          Text.encode "attachment; filename=\"a/report.csv\"".toList)]
        body := .ok [0x61] }
    let t : FileTree := ⟨[], [["home"], ["home", "out"]], ["home"]⟩
    ∃ file found, reply.file ⟨"exports/1"⟩ = .ok file ∧ file.name = "report.csv" ∧
      t.locate (joinPath "out" "report.csv") = .ok found ∧ found.IsChildOf ["home", "out"] := by
  intro reply t
  have header : reply.header? "content-disposition" =
      some "attachment; filename=\"a/report.csv\"" := by decide +kernel
  have name : chosenName (some "attachment; filename=\"a/report.csv\"") ⟨"exports/1"⟩ =
      "report.csv" := by decide
  have inside : t.locate "out" = .ok (.directory ["home", "out"]) :=
    FileTree.locate_eq_ok_iff.mpr ⟨by decide, by decide, by decide, rfl⟩
  have joined : joinPath "out" "report.csv" = "out/report.csv" :=
    FileTree.joinPath_eq (by decide) (by decide)
  have there : t.locate (joinPath "out" "report.csv") =
      .ok (.free ["home", "out", "report.csv"]) := by
    rw [joined]
    exact FileTree.locate_eq_ok_iff.mpr ⟨by decide, by decide, by decide, rfl⟩
  obtain ⟨⟨some_char, flat⟩, -, child, fetch⟩ :=
    chosenName_saved (some "attachment; filename=\"a/report.csv\"") ⟨"exports/1"⟩
  rw [name] at some_char flat child fetch
  have plain : IsPlainName "report.csv" := ⟨some_char, flat, by decide⟩
  exact ⟨_, _, rfl, (fetch reply _ header rfl).1, there, (child t _ _ _ inside there).mpr plain⟩

/-- Dots that a header value names are chosen, and lead out of the directory. -/
theorem chosenName_of_dots :
    let name := chosenName (some "attachment; filename=\"..\"") ⟨"exports/a.xlsx"⟩
    let t : FileTree := ⟨[], [["home"], ["home", "out"]], ["home"]⟩
    name = ".." ∧ ¬IsPlainName name ∧ t.locate "out" = .ok (.directory ["home", "out"]) ∧
      t.locate (joinPath "out" name) = .ok (.directory ["home"]) := by
  intro name t
  have dots : name = ".." := by decide
  have inside : t.locate "out" = .ok (.directory ["home", "out"]) :=
    FileTree.locate_eq_ok_iff.mpr ⟨by decide, by decide, by decide, rfl⟩
  have joined : joinPath "out" ".." = "out/.." := FileTree.joinPath_eq (by decide) (by decide)
  refine ⟨dots, fun plain => plain.noDots (.inr dots), inside, ?_⟩
  rw [dots, joined]
  exact FileTree.locate_eq_ok_iff.mpr ⟨by decide, by decide, by decide, rfl⟩

end Http

end EntityQuery
