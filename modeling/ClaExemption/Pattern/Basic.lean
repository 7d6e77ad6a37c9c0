import ClaExemption.Regex.Basic
import ClaExemption.Text.Split

/-!
# Patterns for one property of an actor

A pattern is written `*` for any value, as nothing for the empty value, with
`re:` in front for a regular expression, and otherwise as the value itself.
Every text is a pattern, and `Pattern.text` gives it back (`text_parse`).
-/

namespace ClaExemption

/-- What marks a regular expression. -/
def regexMark : List Char := ['r', 'e', ':']

/-- The expression after the mark, if the text has it. -/
def regexSource? (s : String) : Option String :=
  (Text.afterStart? regexMark s.toList).map String.ofList

theorem regexSource?_eq_some {s source : String} :
    regexSource? s = some source ↔ s = String.ofList (regexMark ++ source.toList) := by
  simp only [regexSource?, Option.map_eq_some_iff, Text.afterStart?_eq_some]
  constructor
  · rintro ⟨rest, eq, rfl⟩
    rw [String.toList_ofList, ← eq, String.ofList_toList]
  · rintro rfl
    exact ⟨source.toList, by simp, String.ofList_toList⟩

/-- A pattern for one property of an actor. -/
inductive Pattern where
  /-- Any value, and a missing one too. -/
  | any
  /-- Only a missing or empty value. -/
  | empty
  /-- A value in which the expression is found. -/
  | regex (source : String)
  /-- This value. -/
  | exact (value : String)
deriving DecidableEq, Repr

namespace Pattern

/-- Reads a pattern. -/
def parse (s : String) : Pattern :=
  if s = "*" then .any
  else if s = "" then .empty
  else
    match regexSource? s with
    | some source => .regex source
    | none => .exact s

/-- The pattern as it is written. -/
def text : Pattern → String
  | .any => "*"
  | .empty => ""
  | .regex source => String.ofList (regexMark ++ source.toList)
  | .exact value => value

theorem text_parse (s : String) : (parse s).text = s := by
  unfold parse
  split
  · next h => exact h.symm
  · split
    · next h => exact h.symm
    · split
      · next h => exact (regexSource?_eq_some.1 h).symm
      · rfl

/-- Whether a regular expression compiles and is found in a text. -/
def found (source value : String) : Bool :=
  match Regex.compile source with
  | .ok r => r.isMatch value
  | .error _ => false

/-- Whether a value, empty if it is missing, fits a pattern. -/
def fits (value : String) : Pattern → Bool
  | .any => true
  | .empty => value = ""
  | .regex source => value ≠ "" && found source value
  | .exact literal => value ≠ "" && literal = value

/-- Whether a value fits a pattern of the kind that wants a value to be there for `*`. -/
def fitsPresent (value : String) : Pattern → Bool
  | .any => value ≠ ""
  | p => p.fits value

end Pattern

end ClaExemption
