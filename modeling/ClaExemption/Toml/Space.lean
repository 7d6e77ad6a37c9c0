/-!
# Space in TOML documents

Lines end with a line feed, perhaps after a carriage return. Blanks are spaces
and tabs; a comment reaches to the end of its line. Inside brackets, line ends
and comments count as space.
-/

namespace ClaExemption.Toml

/-- The character that is no character of a text: the delete control. -/
def delete : Char := Char.ofNat 0x7f

/-- Whether a character may stand in a comment or a text as it is: a tab, or no control. -/
def isPlain (c : Char) : Bool := c == '\t' || (' ' ≤ c && c != delete)

/-- Drops spaces and tabs. -/
def skipBlanks (s : List Char) : List Char := s.dropWhile fun c => c == ' ' || c == '\t'

/-- What follows a line end at the front. -/
def afterLineEnd? : List Char → Option (List Char)
  | '\n' :: rest => some rest
  | '\r' :: '\n' :: rest => some rest
  | _ => none

/-- Drops a comment at the front. -/
def skipComment : List Char → List Char
  | '#' :: rest => rest.dropWhile isPlain
  | s => s

/-- What follows a line of nothing but blanks and a comment: the next line, or nothing at the end of
the text. -/
def finishLine? (s : List Char) : Option (List Char) :=
  match skipComment (skipBlanks s) with
  | [] => some []
  | s => afterLineEnd? s

theorem length_skipBlanks (s : List Char) : (skipBlanks s).length ≤ s.length :=
  (List.dropWhile_suffix _).length_le

theorem length_skipComment (s : List Char) : (skipComment s).length ≤ s.length := by
  unfold skipComment
  split
  · exact Nat.le_succ_of_le (List.dropWhile_suffix _).length_le
  · exact Nat.le_refl _

theorem length_afterLineEnd {s rest : List Char} (h : afterLineEnd? s = some rest) :
    rest.length < s.length := by
  unfold afterLineEnd? at h
  split at h
  · cases h; simp
  · cases h; simp only [List.length_cons]; omega
  · simp at h

/-- Drops blanks, line ends and comments. -/
def skipSpace (s : List Char) : List Char :=
  match h : afterLineEnd? (skipComment (skipBlanks s)) with
  | some rest =>
    have := length_afterLineEnd h
    have := length_skipComment (skipBlanks s)
    have := length_skipBlanks s
    skipSpace rest
  | none => skipComment (skipBlanks s)
termination_by s.length

end ClaExemption.Toml
