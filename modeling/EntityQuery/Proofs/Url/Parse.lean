import EntityQuery.Proofs.Url.Host
import EntityQuery.Url.Parse

/-!
# The text of a URL is cut back into its parts

A reader finds the fragment of a URL behind the first number sign of its text,
and the query behind the first question mark before that.  In a URL that was
read, no part holds a mark that would start a later one.  So these cuts give its
parts back, and they still do after a pair was added to its query.

## Main Definitions

* `Url.UnmarkedPlace`: neither the authority nor the path of a URL holds a mark.
* `Url.Separated`: no part of a URL holds a mark that would start a later part.
* `Url.bare`: a URL without its query and its fragment.
* `Url.cutMarks`: a text cut at its marks.

## Main Statements

* `Url.separated_parse`: what is read is separated.
* `Url.Separated.appendPair`: it stays so when a pair is added.
* `Url.Separated.cutMarks_text`: the cuts of a URL's text.
-/

namespace EntityQuery.Url

open Text

/-! ## Paths -/

section Path

variable {segments : List (List Char)}

theorem mem_parent {segment : List Char} {before : List (List Char)}
    (mem : segment ∈ parent before) : segment ∈ before := by
  cases before with
  | nil => cases mem
  | cons last before =>
    simp only [parent] at mem
    split at mem
    · exact mem
    · exact List.mem_cons_of_mem last mem

theorem isEncodedInPath_of_mark : ∀ mark ∈ marks, isEncodedInPath mark :=
  forall_marks rfl rfl

/-- A segment is encoded when it is taken over; dot segments add none but an empty one. -/
theorem unmarked_resolve {before : List (List Char)}
    (unmarked : ∀ segment ∈ before, Unmarked segment) :
    ∀ segment ∈ resolve before segments, Unmarked segment := by
  induction segments generalizing before with
  | nil => exact fun segment mem => unmarked segment (List.mem_reverse.mp mem)
  | cons segment rest ih =>
    rw [resolve]
    split
    case isTrue =>
      have kept : ∀ other ∈ if plainDots segment = ['.'] then before else parent before,
          Unmarked other := by
        intro other mem
        split at mem
        · exact unmarked other mem
        · exact unmarked other (mem_parent mem)
      refine ih fun other mem => ?_
      split at mem
      · exact List.forall_mem_cons.mpr ⟨.nil, kept⟩ other mem
      · exact kept other mem
    case isFalse =>
      have encoded : Unmarked (percentEncode isEncodedInPath segment) :=
        unmarked_percentEncode fun mark isMark _ => isEncodedInPath_of_mark mark isMark
      exact ih (List.forall_mem_cons.mpr ⟨encoded, unmarked⟩)

theorem unmarked_parseSegments (special : Bool) (s : List Char) :
    ∀ segment ∈ parseSegments special s, Unmarked segment :=
  unmarked_resolve nofun

theorem unmarked_parsePath (special : Bool) (s : List Char) :
    ∀ segment ∈ parsePath special s, Unmarked segment := by
  unfold parsePath
  split
  · exact unmarked_parseSegments special _
  · exact unmarked_parseSegments special _

theorem unmarked_pathText (unmarked : ∀ segment ∈ segments, Unmarked segment) :
    Unmarked (pathText segments).toList := by
  rw [pathText, String.toList_ofList]
  intro c mem
  obtain ⟨segment, there, mem⟩ := List.mem_flatMap.mp mem
  rcases List.mem_cons.mp mem with rfl | mem
  · decide
  · exact unmarked segment there c mem

theorem unmarked_filePathText (unmarked : ∀ segment ∈ segments, Unmarked segment) :
    Unmarked (filePathText segments).toList := by
  unfold filePathText
  split
  case h_1 letter mark rest =>
    obtain ⟨drive, others⟩ := List.forall_mem_cons.mp unmarked
    refine unmarked_pathText (List.forall_mem_cons.mpr ⟨?_, others⟩)
    split
    · obtain ⟨first, -⟩ := List.forall_mem_cons.mp drive
      exact List.forall_mem_cons.mpr ⟨first, List.forall_mem_singleton.mpr (by decide)⟩
    · exact drive
  case h_2 =>
    refine unmarked_pathText ?_
    split
    · exact List.forall_mem_singleton.mpr .nil
    · exact fun segment mem => unmarked segment ((List.dropWhile_suffix _).subset mem)

end Path

/-! ## Authorities -/

section Authority

variable {a : Authority} {scheme : String} {s rest : List Char}

theorem unmarked_authority (name : Unmarked a.username.toList)
    (password : Unmarked a.password.toList) (host : Unmarked a.host.toList) :
    Unmarked a.text.toList := by
  rw [Authority.text, String.toList_append]
  refine .append ?_ ?_
  · unfold Authority.userText
    split
    · exact .nil
    split
    · exact String.toList_append ▸ .append name (by decide)
    · simp only [String.toList_append]
      exact .append (.append (.append name (by decide)) password) (by decide)
  · unfold Authority.place
    split
    · simp only [String.toList_append]
      exact .append (.append host (by decide)) (unmarked_toString _)
    · exact host

/-- An authority that is read has an encoded user and a host of one of the two kinds. -/
theorem exists_of_parseAuthority (read : parseAuthority scheme s = .ok (a, rest)) :
    ∃ name password host, a.username = encodePart isEncodedInUser name ∧
      a.password = encodePart isEncodedInUser password ∧
      (parseHost host = .ok a.host ∨ parseOpaqueHost host = .ok a.host) := by
  simp only [parseAuthority, Except.guard_bind_eq_ok_iff] at read
  obtain ⟨-, read⟩ := read
  by_cases special : isSpecial scheme
  · rw [if_pos special] at read
    obtain ⟨host, hostRead, read⟩ := Except.bind_eq_ok_iff.mp read
    obtain ⟨port, -, read⟩ := Except.bind_eq_ok_iff.mp read
    cases read
    exact ⟨_, _, _, rfl, rfl, .inl hostRead⟩
  · rw [if_neg special] at read
    obtain ⟨host, hostRead, read⟩ := Except.bind_eq_ok_iff.mp read
    obtain ⟨port, -, read⟩ := Except.bind_eq_ok_iff.mp read
    cases read
    exact ⟨_, _, _, rfl, rfl, .inr hostRead⟩

theorem isEncodedInUser_of_mark : ∀ mark ∈ marks, isEncodedInUser mark :=
  forall_marks rfl rfl

theorem unmarked_parseAuthority (read : parseAuthority scheme s = .ok (a, rest)) :
    Unmarked a.text.toList := by
  obtain ⟨name, password, host, nameRead, passwordRead, hostRead⟩ := exists_of_parseAuthority read
  have encoded : ∀ s, Unmarked (encodePart isEncodedInUser s).toList := fun s =>
    String.toList_ofList ▸
      unmarked_percentEncode fun mark isMark _ => isEncodedInUser_of_mark mark isMark
  exact unmarked_authority (nameRead ▸ encoded name) (passwordRead ▸ encoded password)
    (hostRead.elim unmarked_parseHost unmarked_parseOpaqueHost)

end Authority

/-! ## Places -/

/-- Neither the authority nor the path of a URL holds a mark. -/
structure UnmarkedPlace (authority : Option Authority) (path : String) : Prop where
  authority : ∀ a ∈ authority, Unmarked a.text.toList
  path : Unmarked path.toList

section Place

variable {authority : Option Authority} {path : String} {s : List Char}

theorem UnmarkedPlace.none (unmarked : Unmarked path.toList) : UnmarkedPlace .none path :=
  ⟨nofun, unmarked⟩

theorem UnmarkedPlace.some {a : Authority} (unmarkedAuthority : Unmarked a.text.toList)
    (unmarked : Unmarked path.toList) : UnmarkedPlace (.some a) path := by
  refine ⟨fun b mem => ?_, unmarked⟩
  cases mem
  exact unmarkedAuthority

theorem unmarked_parseFileHost {host path : List Char} {place : String × List (List Char)}
    (read : parseFileHost host path = .ok place) :
    Unmarked place.1.toList ∧ ∀ segment ∈ place.2, Unmarked segment := by
  unfold parseFileHost at read
  split at read
  · cases read
    exact ⟨.nil, unmarked_parseSegments true _⟩
  split at read
  · cases read
    exact ⟨.nil, unmarked_parseSegments true _⟩
  obtain ⟨name, hostRead, read⟩ := Except.bind_eq_ok_iff.mp read
  split at read
  · cases read
    exact ⟨.nil, unmarked_parseSegments true _⟩
  · cases read
    exact ⟨.ite .nil (unmarked_parseHost hostRead), unmarked_parsePath true _⟩

theorem unmarkedPlace_parseFilePlace (read : parseFilePlace s = .ok (authority, path)) :
    UnmarkedPlace authority path := by
  have ends {place : String × List (List Char)}
      (unmarked : Unmarked place.1.toList ∧ ∀ segment ∈ place.2, Unmarked segment) :
      UnmarkedPlace (some ⟨"", "", place.1, none⟩) (filePathText place.2) :=
    .some (unmarked_authority .nil .nil unmarked.1) (unmarked_filePathText unmarked.2)
  have hostless : Unmarked "".toList ∧ ∀ segment ∈ parsePath true s, Unmarked segment :=
    ⟨.nil, unmarked_parsePath true s⟩
  unfold parseFilePlace at read
  dsimp only at read
  split at read
  · split at read
    · obtain ⟨place, placed, read⟩ := Except.bind_eq_ok_iff.mp read
      cases read
      exact ends (unmarked_parseFileHost placed)
    · cases read
      exact ends hostless
  · cases read
    exact ends hostless

/-- Only an opaque path is taken over without its marks encoded, so none may stand in the text. -/
theorem unmarkedPlace_parsePlace {scheme : String} {isFollowed : Bool} (unmarked : Unmarked s)
    (read : parsePlace scheme isFollowed s = .ok (authority, path)) :
    UnmarkedPlace authority path := by
  unfold parsePlace at read
  split at read
  · exact unmarkedPlace_parseFilePlace read
  split at read
  · obtain ⟨⟨a, rest⟩, placed, read⟩ := Except.bind_eq_ok_iff.mp read
    cases read
    exact .some (unmarked_parseAuthority placed) (unmarked_pathText (unmarked_parsePath true _))
  split at read
  · simp only [Except.guard_bind_eq_ok_iff] at read
    obtain ⟨-, read⟩ := read
    obtain ⟨⟨a, rest⟩, placed, read⟩ := Except.bind_eq_ok_iff.mp read
    cases read
    exact .some (unmarked_parseAuthority placed)
      (.ite .nil (unmarked_pathText (unmarked_parsePath false _)))
  · cases read
    exact .none (unmarked_pathText (unmarked_parseSegments false _))
  · cases read
    have plain : Unmarked (percentEncode (fun _ => false) s) :=
      unmarked_percentEncode fun mark isMark mem => absurd isMark (unmarked mark mem)
    exact .none (String.toList_ofList ▸ plain)

end Place

/-! ## Schemes -/

/-- No other character becomes a mark in lower case. -/
theorem mem_marks_of_toLower {c : Char} (mark : c.toLower ∈ marks) : c ∈ marks := by
  have below : ∀ mark ∈ marks, mark.toNat < 0x41 := forall_marks (by decide) (by decide)
  have low : c.toLower.toNat < 0x41 := below _ mark
  have same : c.toLower.toNat = c.toNat := by
    rw [toNat_toLower] at low ⊢
    split at low
    · omega
    · exact if_neg ‹_›
  exact Char.toNat_inj.mp same ▸ mark

theorem unmarked_cutScheme {s rest : List Char} {scheme : String}
    (read : cutScheme s = some (scheme, rest)) : Unmarked scheme.toList := by
  unfold cutScheme at read
  split at read
  case h_2 => cases read
  case h_1 first others _ _ =>
    split at read
    case isFalse => cases read
    case isTrue valid =>
      cases read
      rw [Bool.and_eq_true, List.all_eq_true] at valid
      rw [String.toList_ofList]
      intro c mem mark
      obtain ⟨letter, there, rfl⟩ := List.mem_map.mp mem
      have mark := mem_marks_of_toLower mark
      rcases List.mem_cons.mp there with same | there
      · have noLetter : ∀ mark ∈ marks, ¬mark.isAlpha := forall_marks nofun nofun
        exact noLetter letter mark (same ▸ valid.1)
      · have other : ∀ mark ∈ marks, ¬isSchemeChar mark := forall_marks nofun nofun
        exact other letter mark (valid.2 letter there)

/-! ## Cuts -/

section Cut

variable {c : Char} {s : List Char}

/-- What stands in front of the cut holds the character no more. -/
theorem cutTail_spec (c : Char) (s : List Char) : (cutTail c s).1 <+: s ∧ c ∉ (cutTail c s).1 := by
  unfold cutTail
  cases cut : cutFirst c s with
  | none => exact ⟨List.prefix_rfl, cutFirst_eq_none_iff.mp cut⟩
  | some sides =>
    obtain ⟨rfl, absent⟩ := cutFirst_eq_some_iff.mp cut
    exact ⟨List.prefix_append _ _, absent⟩

/-- A part that may be missing, behind its mark. -/
def behind (mark : Char) : Option String → List Char
  | none => []
  | some part => mark :: part.toList

theorem cutTail_behind (absent : c ∉ s) (part : Option String) :
    cutTail c (s ++ behind c part) = (s, part.map String.toList) := by
  cases part with
  | none => rw [behind, List.append_nil, cutTail, cutFirst_eq_none absent, Option.map_none]
  | some part => rw [behind, cutTail, cutFirst_append_cons absent, Option.map_some]

end Cut

/-- A text cut at its marks: what stands in front of the query, the query and the fragment. -/
def cutMarks (s : List Char) : List Char × Option (List Char) × Option (List Char) :=
  let (rest, fragment) := cutTail '#' s
  let (front, query) := cutTail '?' rest
  (front, query, fragment)

/-! ## Whole URLs -/

/-- No part of a URL holds a mark that would start a later part. -/
structure Separated (u : Url) : Prop extends UnmarkedPlace u.authority u.path where
  scheme : Unmarked u.scheme.toList
  query : ∀ q ∈ u.query, '#' ∉ q.toList

/-- A URL without its query and its fragment. -/
def bare (u : Url) : Url :=
  { u with query := none, fragment := none }

theorem toList_target (u : Url) : u.target.toList = u.path.toList ++ behind '?' u.query := by
  cases given : u.query with
  | none => simp [target, given, behind]
  | some q => simp [target, given, behind]

theorem toList_text (u : Url) :
    u.text.toList = (u.bare.text.toList ++ behind '?' u.query) ++ behind '#' u.fragment := by
  obtain ⟨scheme, authority, path, query, fragment⟩ := u
  simp only [text, String.toList_append, toList_target]
  cases fragment <;> simp [bare, behind]

/-- A URL that was read is separated. -/
theorem separated_parse {text : String} {u : Url} (read : parse text = .ok u) : u.Separated := by
  unfold parse at read
  split at read
  case h_1 => cases read
  case h_2 scheme rest cut =>
    obtain ⟨⟨authority, path⟩, placed, read⟩ := Except.bind_eq_ok_iff.mp read
    -- The place is read from a text that was cut at both marks.
    have unmarked : Unmarked (cutTail '?' (cutTail '#' rest).1).1 := by
      obtain ⟨front, noQuery⟩ := cutTail_spec '?' (cutTail '#' rest).1
      obtain ⟨-, noFragment⟩ := cutTail_spec '#' rest
      intro c mem mark
      simp only [marks, List.mem_cons, List.not_mem_nil, or_false] at mark
      rcases mark with rfl | rfl
      · exact noQuery mem
      · exact noFragment (front.subset mem)
    have place := unmarkedPlace_parsePlace unmarked placed
    cases read
    refine ⟨place, unmarked_cutScheme cut, fun q mem => ?_⟩
    obtain ⟨q, -, rfl⟩ := Option.map_eq_some_iff.mp mem
    rw [encodePart, String.toList_ofList]
    exact not_mem_percentEncode (by decide) fun _ => rfl

namespace Separated

variable {u : Url}

/-- An added pair brings no mark with it. -/
theorem appendPair (separated : u.Separated) (name value : String) :
    (u.appendPair name value).Separated := by
  refine ⟨separated.toUnmarkedPlace, separated.scheme, fun q mem => ?_⟩
  cases mem
  have pair : '#' ∉ encodePair name.toList value.toList := not_mem_encodePair (by decide) _ _
  unfold addPair
  cases given : u.query with
  | none => exact String.toList_ofList ▸ pair
  | some q =>
    dsimp only
    split
    · exact String.toList_ofList ▸ pair
    · simp [separated.query q given, pair]

theorem unmarked_bare (separated : u.Separated) : Unmarked u.bare.text.toList := by
  obtain ⟨scheme, authority, path, query, fragment⟩ := u
  simp only [bare, text, target, String.toList_append]
  refine .append (.append (.append (.append separated.scheme (by decide)) ?_)
    (.append separated.path .nil)) .nil
  cases authority with
  | none => exact .ite (by decide) (by decide)
  | some a => exact String.toList_append ▸ .append (by decide) (separated.authority a rfl)

/-- The text of a separated URL is cut back into its parts. -/
theorem cutMarks_text (separated : u.Separated) :
    cutMarks u.text.toList =
      (u.bare.text.toList, u.query.map String.toList, u.fragment.map String.toList) := by
  have noQuery : '?' ∉ u.bare.text.toList := fun mem => separated.unmarked_bare _ mem (by decide)
  have noFragment : '#' ∉ u.bare.text.toList ++ behind '?' u.query := by
    refine List.not_mem_append (fun mem => separated.unmarked_bare _ mem (by decide)) ?_
    cases given : u.query with
    | none => exact List.not_mem_nil
    | some q => exact List.not_mem_cons_of_ne_of_not_mem (by decide) (separated.query q given)
  simp only [cutMarks, toList_text u, cutTail_behind noFragment, cutTail_behind noQuery]

/-- What a request names on its host is cut back into path and query. -/
theorem cutTail_target (separated : u.Separated) :
    cutTail '?' u.target.toList = (u.path.toList, u.query.map String.toList) := by
  rw [toList_target]
  exact cutTail_behind (fun mem => separated.path _ mem (by decide)) u.query

end Separated

end EntityQuery.Url
