import ClaExemption.Number.Read
import ClaExemption.Setting.Basic

/-!
# Paths to settings

The keys of a source are paths: names with points between them, and indices in
square brackets. A key that is not written so is one name as it stands. `layer`
puts the settings of a source over those of earlier ones.
-/

namespace ClaExemption

/-- Whether a character may stand in a name of a path. -/
def isNameChar (c : Char) : Bool := c.isAlphanum || c == '_' || c == '-'

/-- Reads a name of at least one character. -/
def readName (s : List Char) : Option (String × List Char) :=
  match s.span isNameChar with
  | ([], _) => none
  | (name, rest) => some (String.ofList name, rest)

/-- Drops spaces and tabs. -/
def dropBlanks (s : List Char) : List Char := s.dropWhile fun c => c == ' ' || c == '\t'

/-- The index between square brackets, perhaps with a minus sign. -/
def index? (s : List Char) : Option Int :=
  let s := (dropBlanks (dropBlanks s).reverse).reverse
  if s.head? = some '+' then none else Number.int64? s

/-- Reads the steps after a name to the end of a text; the number bounds how many there are. -/
def readSteps : Nat → List Char → Option (List PathStep)
  | _, [] => some []
  | 0, _ => none
  | fuel + 1, '.' :: rest => do
    let (name, rest) ← readName rest
    return .key name :: (← readSteps fuel rest)
  | fuel + 1, '[' :: rest => do
    let (inner, rest) := rest.span (· != ']')
    let i ← index? inner
    match rest with
    | _ :: rest => return .index i :: (← readSteps fuel rest)
    | [] => none
  | _, _ => none

/-- The path that a text is, if it is written as one. -/
def path? (s : List Char) : Option (List PathStep) := do
  let (name, rest) ← readName s
  return .key name :: (← readSteps rest.length rest)

/-- The path of a key. -/
def pathOf (key : String) : List PathStep := (path? key.toList).getD [.key key]

/-- Puts the settings of a source over earlier ones. -/
def layer (below : Setting) (source : List (String × Setting)) : Setting :=
  source.foldl (fun s e => s.set (pathOf e.1) e.2) below

/-- The settings of all sources, the later ones over the earlier ones. -/
def layers (sources : List (List (String × Setting))) : Setting :=
  sources.foldl layer (.table [])

end ClaExemption
