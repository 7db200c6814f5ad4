import EntityQuery.Text.Split

/-!
# Files

A tree of files and directories in memory, with the look-up rules of a POSIX
file system, and the errors of such a system.

## Main Definitions

* `FileError`: why a file operation failed.
* `FileTree`: files and directories under a working directory.
* `FileTree.locate`: what a path names.
* `FileTree.read`, `FileTree.write`: the content of a file.
* `joinPath`: a path inside a directory.
-/

namespace EntityQuery

/-- Why a file operation failed. -/
inductive FileError where
  | notFound
  | notDirectory
  | isDirectory
  | nameTooLong
  /-- The path contains the character NUL. -/
  | nulInName
  /-- The content is not UTF-8. -/
  | notUtf8
  | other (message : String)
deriving DecidableEq, Repr

namespace FileError

/-- The wording of an error. -/
def message : FileError → String
  | .notFound => "No such file or directory (os error 2)"
  | .notDirectory => "Not a directory (os error 20)"
  | .isDirectory => "Is a directory (os error 21)"
  | .nameTooLong => "File name too long (os error 36)"
  | .nulInName => "file name contained an unexpected NUL byte"
  | .notUtf8 => "stream did not contain valid UTF-8"
  | .other message => message

end FileError

/-- The names on the way from the root. -/
abbrev AbsolutePath := List String

/-- A tree of files and directories. -/
structure FileTree where
  files : List (AbsolutePath × List UInt8)
  directories : List AbsolutePath
  /-- Where paths without a leading slash start. -/
  workingDirectory : AbsolutePath

namespace FileTree

/-- What stands at a place of the tree. -/
inductive Place where
  | directory (path : AbsolutePath)
  | file (path : AbsolutePath) (content : List UInt8)
  /-- Nothing, in an existing directory. -/
  | free (path : AbsolutePath)
  /-- A name with a slash at its end, which only a directory can have, and no directory. -/
  | slashed ( isFile : Bool)

/-- Follows the names of a path from a directory. -/
def follow (t : FileTree) (directory : AbsolutePath) : List String → Except FileError Place
  | [] => .ok (.directory directory)
  | name :: rest =>
    if name = "" || name = "." then t.follow directory rest
    else if name = ".." then t.follow directory.dropLast rest
    else if 255 < name.utf8ByteSize then .error .nameTooLong
    else
      let path := directory ++ [name]
      if t.directories.contains path then t.follow path rest
      else
        let isSlashed := rest.all (· = "")
        match t.files.lookup path, rest with
        | some content, [] => .ok (.file path content)
        | none, [] => .ok (.free path)
        | some _, _ => if isSlashed then .ok (.slashed true) else .error .notDirectory
        | none, _ => if isSlashed then .ok (.slashed false) else .error .notFound

/-- What a path names. -/
def locate (t : FileTree) (path : String) : Except FileError Place :=
  if path.isEmpty then .error .notFound
  else if path.contains (Char.ofNat 0) then .error .nulInName
  else if 4096 ≤ path.utf8ByteSize then .error .nameTooLong
  else
    let start := if path.startsWith "/" then [] else t.workingDirectory
    t.follow start (Text.pieces (· == '/') path)

/-- Whether a path names a directory. -/
def isDirectory (t : FileTree) (path : String) : Bool :=
  match t.locate path with
  | .ok (.directory _) => true
  | _ => false

/-- Whether a path names anything. -/
def contains (t : FileTree) (path : String) : Bool :=
  match t.locate path with
  | .ok (.directory _) => true
  | .ok (.file _ _) => true
  | _ => false

/-- The content of the file at a path. -/
def read (t : FileTree) (path : String) : Except FileError (List UInt8) :=
  match t.locate path with
  | .ok (.file _ content) => .ok content
  | .ok (.directory _) => .error .isDirectory
  | .ok (.free _) => .error .notFound
  | .ok (.slashed isFile) => .error (if isFile then .notDirectory else .notFound)
  | .error e => .error e

/-- Puts content at a path from the root. -/
def store (t : FileTree) (path : AbsolutePath) (content : List UInt8) : FileTree :=
  { t with files := (path, content) :: t.files.filter (·.1 ≠ path) }

/-- Writes a file, over one that is there. -/
def write (t : FileTree) (path : String) (content : List UInt8) : Except FileError FileTree :=
  match t.locate path with
  | .ok (.file path _) => .ok (t.store path content)
  | .ok (.free path) => .ok (t.store path content)
  | .ok (.directory _) | .ok (.slashed _) => .error .isDirectory
  | .error e => .error e

/-- Makes a directory, and those on the way to it, below the working directory. -/
def makeDirectory (t : FileTree) (path : String) : FileTree :=
  let names := (Text.pieces (· == '/') path).filter (· ≠ "")
  let paths := (List.range names.length).map fun n => t.workingDirectory ++ names.take (n + 1)
  { t with directories := paths ++ t.directories }

end FileTree

/-- The path of a name inside a directory; an absolute name stands for itself. -/
def joinPath (directory name : String) : String :=
  if name.startsWith "/" || directory.isEmpty then name
  else if directory.endsWith "/" then directory ++ name
  else directory ++ "/" ++ name

end EntityQuery
