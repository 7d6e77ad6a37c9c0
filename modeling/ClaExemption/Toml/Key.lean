import ClaExemption.Toml.Text

/-!
# Keys in TOML documents

A key is a word of letters, digits, underscores and hyphens, or a text on one
line; keys with points between them lead through tables.
-/

namespace ClaExemption.Toml

open Text (Reader)

/-- Whether a character may stand in a key without quotes. -/
def isBareChar (c : Char) : Bool := c.isAlphanum || c == '_' || c == '-'

/-- Reads one part of a key. -/
def readPart : Reader String
  | '"' :: rest => (readBasic [] rest).map fun (cs, rest) => (String.ofList cs, rest)
  | '\'' :: rest => (readLiteral rest).map fun (cs, rest) => (String.ofList cs, rest)
  | s =>
    match s.span isBareChar with
    | ([], _) => none
    | (cs, rest) => some (String.ofList cs, rest)

/-- A key: the tables that it leads through, and its last part. -/
structure Key where
  path : List String
  last : String

/-- The key with one more part in front. -/
def Key.under (k : Key) (part : String) : Key := ⟨part :: k.path, k.last⟩

/-- Reads a key and the blanks after it; the number bounds how many parts there are. -/
def readParts : Nat → Reader Key
  | 0, _ => none
  | fuel + 1, s => do
    let (part, rest) ← readPart s
    match skipBlanks rest with
    | '.' :: rest =>
      let (key, rest) ← readParts fuel (skipBlanks rest)
      return (key.under part, rest)
    | rest => return (⟨[], part⟩, rest)

/-- Reads a key and the blanks around it. -/
def readKey (s : List Char) : Option (Key × List Char) := readParts s.length (skipBlanks s)

end ClaExemption.Toml
