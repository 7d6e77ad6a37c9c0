import ClaExemption.Config.Environment
import ClaExemption.Text.Blank
import ClaExemption.Text.Utf8
import ClaExemption.Unicode.Query

/-!
# Files of variables

A file of variables has a line for each, a name and a value with an equals sign
between them. Values may be quoted, may run over lines inside quotes, and may
name other variables after a dollar sign. Reading stops at the first line that
is not written so; the variables before it count.
-/

namespace ClaExemption.EnvFile

/-! ## Lines -/

/-- Where the end of a line lies with respect to quotes and backslashes. -/
inductive Place where
  | plain
  /-- After a blank. -/
  | blank
  /-- After a backslash. -/
  | escaped
  /-- Inside single quotes. -/
  | strong
  | strongEscaped
  /-- Inside double quotes. -/
  | weak
  | weakEscaped
deriving DecidableEq, Repr

/-- The place after one more character; none at the start of a comment. -/
def Place.step (p : Place) (c : Char) : Option Place :=
  let opening : Option Place :=
    if c = '\\' then some .escaped
    else if c = '"' then some .weak
    else if c = '\'' then some .strong
    else none
  match p with
  | .plain =>
    if Text.isBlank c && c != '\n' && c != '\r' then some .blank else some (opening.getD .plain)
  | .blank => if c = '#' then none else some (opening.getD .plain)
  | .escaped => some .plain
  | .strong => some (if c = '\\' then .strongEscaped else if c = '\'' then .plain else .strong)
  | .strongEscaped => some .strong
  | .weak => some (if c = '\\' then .weakEscaped else if c = '"' then .plain else .weak)
  | .weakEscaped => some .weak

/-- Follows a line to its end, or to a comment: the characters up to there, and the place, if it is
not a comment. -/
def follow : Place → List Char → List Char × Option Place
  | p, [] => ([], some p)
  | p, c :: rest =>
    match p.step c with
    | none => ([], none)
    | some p =>
      let (kept, last) := follow p rest
      (c :: kept, last)

/-- The line without the line end. -/
def dropLineEnd (s : List Char) : List Char :=
  match s.reverse with
  | '\n' :: '\r' :: rest => rest.reverse
  | '\n' :: rest => rest.reverse
  | _ => s

/-- Whether a line is a comment as a whole. -/
def isComment (s : List Char) : Bool := (s.dropWhile Text.isBlank).head? == some '#'

/-- Joins lines until quotes are closed; `pending` holds the lines so far and `p` the place at their
end. The last entry is none where the text ends too early, or where a line cannot be read. -/
def join (pending : List Char) (p : Place) : List (Option (List Char)) → List (Option (List Char))
  | [] => if p = .plain then [] else [none]
  | none :: _ => [none]
  | some line :: lines =>
    let joined := pending ++ line
    if isComment joined then some [] :: join [] .plain lines
    else
      match follow p line with
      | (kept, none) => some (pending ++ kept) :: join [] .plain lines
      | (_, some .plain) => some (dropLineEnd joined) :: join [] .plain lines
      | (_, some p) => join joined p lines

/-! ## Values -/

/-- What is known while a value is read. -/
structure Reading where
  /-- The value so far, the last character first. -/
  output : List Char := []
  strong : Bool := false
  weak : Bool := false
  escaped : Bool := false
  /-- Whether only a comment may follow. -/
  ended : Bool := false
  /-- The name of a variable that is being read, the last character first. -/
  name : Option (List Char) := none
  /-- Whether that name stands in braces. -/
  braced : Bool := false

/-- The variables that values may name: those of the environment, and those read before, which are
none where their value is left out. -/
structure Scope where
  environment : Environment
  earlier : List (String × Option String) := []

/-- The value of a variable, empty if it has none. -/
def Scope.value (s : Scope) (name : String) : String :=
  match s.environment.lookup name with
  | some value => value
  | none => ((s.earlier.lookup name).join).getD ""

/-- The character that a backslash and a character stand for. -/
def escape? : Char → Option Char
  | 'n' => some '\n'
  | c => if c ∈ ['\\', '\'', '"', '$', ' '] then some c else none

/-- Puts the value of the variable that is being named into the output. -/
def Reading.substitute (r : Reading) (s : Scope) : Reading :=
  match r.name with
  | none => r
  | some name =>
    { r with
      output := (s.value (String.ofList name.reverse)).toList.reverse ++ r.output
      name := none
      braced := false }

/-- Whether a character may stand in a name after a dollar sign. -/
def isNameChar (c : Char) : Bool := Unicode.alphabetic c.toNat || Unicode.numeric c.toNat

/-- Adds a character to the output. -/
def Reading.push (r : Reading) (c : Char) : Reading := { r with output := c :: r.output }

/-- Reads a character while a variable is being named. -/
def Reading.stepName (r : Reading) (s : Scope) (name : List Char) (c : Char) : Reading :=
  if isNameChar c then { r with name := some (c :: name) }
  else if r.braced then
    if c = '\x7d' then r.substitute s else { r with name := some (c :: name) }
  else if c = '\x7b' ∧ name.isEmpty then { r with braced := true }
  else
    let r := r.substitute s
    if c = '$' then { r with name := some [] } else r.push c

/-- Reads one character that does not start a comment; none if it cannot stand there. -/
def Reading.step (r : Reading) (s : Scope) (c : Char) : Option Reading :=
  if r.ended then if c = ' ' ∨ c = '\t' then some r else none
  else if r.escaped then (escape? c).map fun c => { r.push c with escaped := false }
  else if r.strong then some (if c = '\'' then { r with strong := false } else r.push c)
  else
    match r.name with
    | some name => some (r.stepName s name c)
    | none =>
      some <|
        if c = '$' then { r with name := some [] }
        else if c = '\\' then { r with escaped := true }
        else if r.weak then if c = '"' then { r with weak := false } else r.push c
        else if c = '\'' then { r with strong := true }
        else if c = '"' then { r with weak := true }
        else if c = ' ' ∨ c = '\t' then { r with ended := true }
        else r.push c

/-- Reads the rest of a value. -/
def readValue (s : Scope) : Reading → List Char → Option String
  | r, [] =>
    if r.strong || r.weak || r.braced then none
    else some (String.ofList (r.substitute s).output.reverse)
  | r, c :: rest =>
    if r.ended && c == '#' then readValue s r []
    else (r.step s c).bind fun r => readValue s r rest

/-! ## Variables -/

/-- Drops white space at the front. -/
def skipBlanks (s : List Char) : List Char := s.dropWhile Text.isBlank

/-- Whether a character may stand first in a name. -/
def isNameStart (c : Char) : Bool := c.isAlpha || c == '_'

/-- Reads the name of a variable and the white space after it. -/
def readName (s : List Char) : Option (List Char × List Char) :=
  match s with
  | c :: _ =>
    if isNameStart c then
      let (name, rest) := s.span fun c => c.isAlphanum || c == '_' || c == '.'
      some (name, skipBlanks rest)
    else none
  | [] => none

/-- The word that may stand in front of a name. -/
def exportWord : List Char := "export".toList

/-- Reads a name and the equals sign after it. -/
def readAssigned (s : List Char) : Option (List Char × List Char) := do
  let (name, rest) ← readName s
  match rest with
  | '=' :: rest => return (name, rest)
  | _ => if name = exportWord then readExported rest else none
where
  /-- Reads the name after the word. -/
  readExported (s : List Char) : Option (List Char × List Char) := do
    let (name, rest) ← readName s
    match rest with
    | '=' :: rest => return (name, rest)
    | _ => none

/-- The variable on a line, if there is one, with none for a value that is left out; fails if the
line is not written as one. -/
def assignment? (s : Scope) (line : List Char) : Option (Option (String × Option String)) :=
  match skipBlanks (Text.trimRight line) with
  | [] => some none
  | '#' :: _ => some none
  | rest => do
    let (name, rest) ← readAssigned rest
    let name := String.ofList name
    match skipBlanks rest with
    | [] => return some (name, none)
    | '#' :: _ => return some (name, none)
    | rest => return some (name, some (← readValue s {} rest))

/-- Adds the variables on lines to an environment, up to the first line that is not written as one.
What is already set stays as it is. -/
def addAll : Scope → List (Option (List Char)) → Environment
  | s, [] => s.environment
  | s, none :: _ => s.environment
  | s, some line :: lines =>
    match assignment? s line with
    | none => s.environment
    | some none => addAll s lines
    | some (some (name, value)) =>
      let environment :=
        if (s.environment.lookup name).isSome then s.environment
        else s.environment ++ [(name, value.getD "")]
      addAll ⟨environment, (name, value) :: s.earlier⟩ lines

/-- The bytes that may stand in front of a text to show its encoding. -/
def byteOrderMark : List UInt8 := [0xef, 0xbb, 0xbf]

/-- Adds the variables of a file to an environment. -/
def addTo (env : Environment) (bytes : List UInt8) : Environment :=
  let bytes := if byteOrderMark.isPrefixOf bytes then bytes.drop 3 else bytes
  let lines := (Text.splitAfter 0x0a bytes).map fun line => (Text.Utf8.decode line).toOption
  addAll ⟨env, []⟩ (join [] .plain lines)

end ClaExemption.EnvFile
