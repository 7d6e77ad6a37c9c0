import ClaExemption.Text.Utf8

/-!
# Files

What the program asks of a file system: whether there is something at a path,
and what a file holds. `FileSystem` is what answers, in any monad, so that the
same code reads real files and a tree in memory.
-/

namespace ClaExemption

/-- What there is at a path. -/
inductive PathKind where
  | missing
  | file
  | directory
deriving DecidableEq, Repr

/-- Why a file cannot be read. -/
inductive FileError where
  | notFound
  | notDirectory
  | isDirectory
  | nameTooLong
  /-- The path has a null character. -/
  | nullInPath
  /-- The file is not UTF-8. -/
  | undecodable
  /-- Anything else, described by the system. -/
  | other (description : String)
deriving DecidableEq, Repr

/-- The description of an error. -/
def FileError.message : FileError → String
  | .notFound => "No such file or directory (os error 2)"
  | .notDirectory => "Not a directory (os error 20)"
  | .isDirectory => "Is a directory (os error 21)"
  | .nameTooLong => "File name too long (os error 36)"
  | .nullInPath => "file name contained an unexpected NUL byte"
  | .undecodable => "stream did not contain valid UTF-8"
  | .other description => description

/-- Something that answers questions about files. -/
structure FileSystem (m : Type → Type) where
  kind : String → m PathKind
  read : String → m (Except FileError (List UInt8))

namespace FileSystem

variable {m : Type → Type} [Monad m]

/-- Whether there is something at a path. -/
def has (fs : FileSystem m) (path : String) : m Bool := do
  return (← fs.kind path) ≠ .missing

/-- Whether there is a file at a path. -/
def hasFile (fs : FileSystem m) (path : String) : m Bool := do
  return (← fs.kind path) = .file

/-- The characters of a file, which has to be UTF-8. -/
def readChars (fs : FileSystem m) (path : String) : m (Except FileError (List Char)) := do
  match ← fs.read path with
  | .error e => return .error e
  | .ok bytes => return (Text.Utf8.decode bytes).mapError fun _ => .undecodable

/-- The first path of a list where there is something. -/
def firstOf (fs : FileSystem m) : List String → m (Option String)
  | [] => return none
  | path :: paths => do
    if ← fs.has path then return some path else fs.firstOf paths

end FileSystem

/-- The path with a tilde at its front, alone or before a slash, replaced by the home directory. -/
def expandHome (home : Option String) (path : String) : String :=
  match home, path.toList with
  | some home, '~' :: rest =>
    if rest.isEmpty || rest.head? == some '/' then home ++ String.ofList rest else path
  | _, _ => path

end ClaExemption
