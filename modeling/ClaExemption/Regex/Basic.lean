import ClaExemption.Regex.Meaning
import ClaExemption.Regex.Search
import ClaExemption.Regex.Size

/-!
# Regular expressions

`Regex.compile` reads an expression and refuses those that are malformed or too
large; `Regex.isMatch` searches a text for it, anywhere unless the expression is
anchored.
-/

namespace ClaExemption

/-- A regular expression that can be searched for. -/
structure Regex where
  /-- The text that it was read from. -/
  source : String
  /-- The number of its groups, the whole match being the first. -/
  groups : Nat
  /-- What it asks for. -/
  expr : Regex.Expr Regex.CharSet Regex.Look

namespace Regex

/-- Reads a regular expression. -/
def compile (source : String) : Except Fault Regex := do
  let tree ← Tree.read source
  let (expr, _) ← tree.meaning {}
  if expr.size ≤ sizeLimit then return ⟨source, expr.lastGroup + 1, expr⟩
  else .error .oversized

/-- Whether a regular expression is found in a text. -/
def isMatch (r : Regex) (text : String) : Bool :=
  r.expr.isMatch text.toList

end Regex

end ClaExemption
