import ClaExemption.Unicode.Casing

/-!
# Lower case of texts

`lowercase` maps each character to its lower case, which for those of ASCII needs
no table. Two characters need more than a map: the capital dotted I turns into
two characters, and a capital sigma at the end of a word turns into the final
form of the letter.
-/

namespace ClaExemption.Text

/-- Whether the first character that counts is one with a case. -/
def startsCased : List Char → Bool
  | [] => false
  | c :: rest =>
    if Unicode.caseIgnorable c.toNat then startsCased rest else Unicode.cased c.toNat

/-- The capital sigma. -/
def capitalSigma : Char := 'Σ'

/-- The lower case of a character, apart from sigma. -/
@[irreducible]
def lowerChar (c : Char) : List Char :=
  if c.toNat < 0x80 then [c.toLower]
  else if c.toNat = 0x130 then ['i', Char.ofNat 0x307]
  else [Char.ofNat (Unicode.lowerOf c.toNat)]

/-- The lower case of the rest of a text; `before` holds the characters before it, the last
first. -/
def lowerFrom (before : List Char) : List Char → List Char
  | [] => []
  | c :: rest =>
    (if c = capitalSigma then
      [if startsCased before && !startsCased rest then 'ς' else 'σ']
    else lowerChar c) ++ lowerFrom (c :: before) rest

/-- The text in lower case. -/
def lowercase (s : String) : String := String.ofList (lowerFrom [] s.toList)

end ClaExemption.Text
