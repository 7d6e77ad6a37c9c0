/-!
# Readers

A reader takes something from the front of a text and gives it back together
with the rest of the text, or fails.
-/

namespace ClaExemption.Text

/-- Reads something from the front of a text. -/
abbrev Reader (α : Type) := List Char → Option (α × List Char)

/-- What follows a given character at the front of a text. -/
def afterChar? (c : Char) : List Char → Option (List Char)
  | [] => none
  | d :: rest => if c = d then some rest else none

theorem afterChar?_eq_some {c : Char} {s rest : List Char} :
    afterChar? c s = some rest ↔ s = c :: rest := by
  cases s with
  | nil => simp [afterChar?]
  | cons d s =>
    by_cases h : c = d
    · simp [afterChar?, h]
    · simp [afterChar?, h, Ne.symm h]

/-- What a reader makes of a whole text. -/
def Reader.whole {α : Type} (read : Reader α) (s : List Char) : Option α :=
  match read s with
  | some (value, []) => some value
  | _ => none

theorem Reader.whole_eq_some {α : Type} {read : Reader α} {s : List Char} {value : α} :
    Reader.whole read s = some value ↔ read s = some (value, []) := by
  unfold Reader.whole
  split
  · next h => simp [h]
  · next h => exact ⟨nofun, fun eq => absurd eq (h value)⟩

end ClaExemption.Text
