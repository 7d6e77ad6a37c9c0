import ClaExemption.Toml.Entries
import ClaExemption.Toml.Word

/-!
# TOML documents

`Toml.parse?` reads a document of TOML 1.1 and gives its top-level settings. It
tells no more about a document with a flaw than that it has one.
-/

namespace ClaExemption.Toml

open Text (Reader)

/-- How deep arrays and tables in braces may be nested. -/
def depthLimit : Nat := 80

mutual

/-- Reads a value; `depth` is how many brackets may still be opened inside. -/
def readValue : Nat → Nat → Reader Setting
  | 0, _, _ => none
  | fuel + 1, depth, s =>
    match s with
    | '"' :: _ | '\'' :: _ => (readText s).map fun (cs, rest) => (.text (String.ofList cs), rest)
    | '[' :: rest =>
      match depth with
      | 0 => none
      | depth + 1 => (readItems fuel depth rest).map fun (items, rest) => (.list items, rest)
    | '\x7b' :: rest =>
      match depth with
      | 0 => none
      | depth + 1 =>
        (readMembers fuel depth [] rest).map fun (es, rest) =>
          (.table (Entries.settings es), rest)
    | s =>
      let (word, rest) := cutWord s
      (word? word).map fun v => (v, rest)

/-- Reads the items of an array to its end. -/
def readItems : Nat → Nat → Reader (List Setting)
  | 0, _, _ => none
  | fuel + 1, depth, s =>
    match skipSpace s with
    | ']' :: rest => some ([], rest)
    | s => do
      let (item, rest) ← readValue fuel depth s
      match skipSpace rest with
      | ']' :: rest => return ([item], rest)
      | ',' :: rest =>
        let (items, rest) ← readItems fuel depth rest
        return (item :: items, rest)
      | _ => none

/-- Reads the members of a table in braces to its end, after those already read. -/
def readMembers : Nat → Nat → Entries → Reader Entries
  | 0, _, _, _ => none
  | fuel + 1, depth, es, s =>
    match skipSpace s with
    | '\x7d' :: rest => some (es, rest)
    | s => do
      let (key, rest) ← readKey s
      match rest with
      | '=' :: rest =>
        let (value, rest) ← readValue fuel depth (skipBlanks rest)
        let es ← es.put key.last (.value value) true key.path
        match skipSpace rest with
        | '\x7d' :: rest => return (es, rest)
        | ',' :: rest => readMembers fuel depth es rest
        | _ => none
      | _ => none

end

/-- A line of a document that says something. -/
inductive Line where
  /-- Opens a table. -/
  | header (key : Key)
  /-- Opens one more table under its key. -/
  | element (key : Key)
  | pair (key : Key) (value : Setting)

/-- Reads the beginning of a line, up to where only a comment may follow. -/
def readLine (s : List Char) : Option (Line × List Char) :=
  match s with
  | '[' :: '[' :: rest => do
    match ← readKey rest with
    | (key, ']' :: ']' :: rest) => return (.element key, rest)
    | _ => none
  | '[' :: rest => do
    match ← readKey rest with
    | (key, ']' :: rest) => return (.header key, rest)
    | _ => none
  | s => do
    match ← readKey s with
    | (key, '=' :: rest) =>
      let (value, rest) ← readValue (2 * rest.length + 2) depthLimit (skipBlanks rest)
      return (.pair key value, rest)
    | _ => none

/-- Reads all lines; the number bounds how many there are. -/
def readLines : Nat → List Char → Option (List Line)
  | 0, _ => none
  | fuel + 1, s =>
    match skipSpace s with
    | [] => some []
    | s => do
      let (line, rest) ← readLine s
      return line :: (← readLines fuel (← finishLine? rest))

/-- Puts a list of pairs into a table. -/
def fill (pairs : List (Key × Setting)) (es : Entries) : Option Entries :=
  pairs.foldlM (fun (es : Entries) (key, value) => es.put key.last (.value value) true key.path) es

/-- The pairs up to the next header, and the lines from there on. -/
def takePairs : List Line → List (Key × Setting) × List Line
  | .pair key value :: lines =>
    let (pairs, rest) := takePairs lines
    ((key, value) :: pairs, rest)
  | lines => ([], lines)

/-- Puts the tables that headers open into the document; the number bounds how many there are. -/
def addTables : Nat → List Line → Entries → Option Entries
  | _, [], es => some es
  | 0, _, _ => none
  | fuel + 1, line :: lines, es => do
    let (pairs, rest) := takePairs lines
    match line with
    | .header key =>
      addTables fuel rest (← es.descend (Entries.openTable (fill pairs) key.last) key.path)
    | .element key =>
      addTables fuel rest (← es.descend (Entries.openElement (fill pairs) key.last) key.path)
    | .pair _ _ => none

/-- The mark that may stand in front of a text to show its encoding. -/
def byteOrderMark : Char := Char.ofNat 0xfeff

/-- Drops a byte order mark. -/
def dropMark : List Char → List Char
  | c :: rest => if c = byteOrderMark then rest else c :: rest
  | [] => []

/-- The settings of a document. -/
def parse? (s : List Char) : Option (List (String × Setting)) := do
  let s := dropMark s
  let lines ← readLines (s.length + 1) s
  let (pairs, rest) := takePairs lines
  let es ← fill pairs []
  return Entries.settings (← addTables rest.length rest es)

end ClaExemption.Toml
