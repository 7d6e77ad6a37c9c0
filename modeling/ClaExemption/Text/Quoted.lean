import ClaExemption.Unicode.Derived

/-!
# Quoted text in messages

A text quoted inside a message keeps its visible characters; quotes, control
characters and characters that do not show on their own are written as escapes.
-/

namespace ClaExemption.Text.Quoted

/-- Whether a character shows on its own: it is assigned, neither a control nor a private one, and
no separator but the space. -/
def isVisible (c : Char) : Bool :=
  c == ' '
    || !Unicode.inCategories (Unicode.Category.separators ++ Unicode.Category.others) c.toNat

/-- The escape of a character by its code. -/
def codeEscape (c : Char) : List Char :=
  "\\u\x7b".toList ++ Nat.toDigits 16 c.toNat ++ "\x7d".toList

/-- A character inside quotes. -/
def encodeChar (c : Char) : List Char :=
  if c = '"' ∨ c = '\\' then ['\\', c]
  else if c = '\t' then ['\\', 't']
  else if c = '\n' then ['\\', 'n']
  else if c = '\r' then ['\\', 'r']
  else if c.toNat = 0 then ['\\', '0']
  else if Unicode.graphemeExtend c.toNat then codeEscape c
  else if isVisible c then [c]
  else codeEscape c

/-- A text in quotes. -/
def encode (s : String) : String :=
  String.ofList ('"' :: (s.toList.flatMap encodeChar ++ ['"']))

end ClaExemption.Text.Quoted
