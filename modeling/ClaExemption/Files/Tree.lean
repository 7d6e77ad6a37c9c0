import ClaExemption.Files.Basic
import ClaExemption.Text.Split

/-!
# File trees in memory

`FileTree.fileSystem` answers questions about a tree of files and directories as
a real file system would, step by step along each path.
-/

namespace ClaExemption

/-- Files and directories by the names on the way to them from the root. -/
structure FileTree where
  files : List (List String × List UInt8) := []
  /-- Directories that are there whether or not they hold a file. -/
  directories : List (List String) := []
  /-- Where paths start that do not start at the root. -/
  current : List String := []

namespace FileTree

/-- The content of a file. -/
def file? (t : FileTree) (place : List String) : Option (List UInt8) :=
  t.files.lookup place

/-- Whether a place is a directory: the root, or on the way to something. -/
def isDirectory (t : FileTree) (place : List String) : Bool :=
  place.isEmpty
    || (t.current :: t.directories).any (place.isPrefixOf ·)
    || t.files.any fun f => place.isPrefixOf f.1 && place.length < f.1.length

/-- What there is at a place. -/
def kindAt (t : FileTree) (place : List String) : PathKind :=
  if t.isDirectory place then .directory
  else if (t.file? place).isSome then .file
  else .missing

/-- The most bytes of a name. -/
def nameLimit : Nat := 255

/-- Follows names from a place on. Only a directory leads further. -/
def walk (t : FileTree) : List String → List String → Except FileError (List String)
  | place, [] =>
    match t.kindAt place with
    | .missing => .error .notFound
    | _ => .ok place
  | place, name :: names =>
    match t.kindAt place with
    | .missing => .error .notFound
    | .file => .error .notDirectory
    | .directory =>
      if name = "." then t.walk place names
      else if name = ".." then t.walk place.dropLast names
      else if nameLimit < name.utf8ByteSize then .error .nameTooLong
      else t.walk (place ++ [name]) names

/-- The names on a path; a slash at the end stands for the directory itself. -/
def namesOf (path : List Char) : List String :=
  let parts := (Text.splitAt '/' path).map String.ofList
  let names := parts.filter (· ≠ "")
  if parts.getLast? = some "" then names ++ ["."] else names

/-- The place that a path leads to. -/
def resolve (t : FileTree) (path : String) : Except FileError (List String) :=
  let chars := path.toList
  if chars.contains (Char.ofNat 0) then .error .nullInPath
  else
    match chars with
    | [] => .error .notFound
    | '/' :: _ => t.walk [] (namesOf chars)
    | _ => t.walk t.current (namesOf chars)

/-- What there is at a path. -/
def kind (t : FileTree) (path : String) : PathKind :=
  match t.resolve path with
  | .ok place => t.kindAt place
  | .error _ => .missing

/-- What the file at a path holds. -/
def read (t : FileTree) (path : String) : Except FileError (List UInt8) := do
  let place ← t.resolve path
  if t.isDirectory place then .error .isDirectory
  else
    match t.file? place with
    | some content => .ok content
    | none => .error .notFound

/-- The tree as a file system. -/
def fileSystem (t : FileTree) : FileSystem Id := ⟨t.kind, t.read⟩

/-- Adds a file under a path from a directory. -/
def addFile (t : FileTree) (base : List String) (path content : String) : FileTree :=
  { t with files := (base ++ namesOf path.toList, Text.Utf8.encode content) :: t.files }

end FileTree

end ClaExemption
