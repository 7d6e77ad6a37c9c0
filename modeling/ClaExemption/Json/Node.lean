import ClaExemption.Json.Numeral

/-!
# JSON texts as trees

`Node` is what a JSON text says as far as it can be read. Reading stops at the
first flaw of the grammar, and the flaw stays in the tree where it lies, so that
a decoder that walks the tree from left to right meets what it does not expect
and what is not JSON in the order of the text.
-/

namespace ClaExemption.Json

/-- What is wrong with the grammar of a text. -/
inductive Fault where
  /-- The text ends too early. -/
  | ended
  /-- Some character cannot stand where it does. -/
  | malformed
deriving DecidableEq, Repr

/-- A character of a text; none for a byte that belongs to no character. -/
abbrev Glyph := Option Char

/-- A JSON text, read as far as it follows the grammar. -/
inductive Node where
  | null
  | bool (b : Bool)
  | number (n : Numeral)
  /-- A text, whose content may be flawed: half of a pair of escapes, or bytes that are not
  characters. This is no flaw where the content is passed over. -/
  | text (content : Except Fault String)
  /-- A sequence, and the flaw that ends it, if one does. -/
  | array (items : List Node) (stop : Option Fault)
  /-- An object, and the flaw that ends it, if one does. The name of the last member may be the
  flawed part. -/
  | object (members : List (Except Fault String × Node)) (stop : Option Fault)
  /-- An object whose first name is not a text but something else. -/
  | oddObject (name : Node)
  /-- A flaw in place of a value: what it is when the value is asked for, and when it is passed
  over. -/
  | flaw (wanted ignored : Fault)

/-- The flaw at which reading a value stopped, if the value is passed over. -/
def Node.stop : Node → Option Fault
  | .array _ stop => stop
  | .object _ stop => stop
  | .oddObject _ => some .malformed
  | .flaw _ ignored => some ignored
  | _ => none

end ClaExemption.Json
