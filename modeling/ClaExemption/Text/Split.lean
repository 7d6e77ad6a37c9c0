/-!
# Cutting texts apart

`splitAt` cuts a list of characters at every copy of one character, `splitBars`
at every pair of vertical bars, from left to right and without overlap, and
`cutFirst` at the first copy of a character only. These leave the separators
out; `splitAfter` keeps each one at the end of its piece.
-/

namespace ClaExemption.Text

/-- The parts between the copies of a character; there is always at least one. -/
def splitAt (sep : Char) : List Char → List (List Char)
  | [] => [[]]
  | c :: rest =>
    if c = sep then [] :: splitAt sep rest
    else
      match splitAt sep rest with
      | part :: parts => (c :: part) :: parts
      | [] => [[c]]

theorem splitAt_ne_nil (sep : Char) (s : List Char) : splitAt sep s ≠ [] := by
  cases s with
  | nil => simp [splitAt]
  | cons c rest =>
    unfold splitAt
    split
    · simp
    · split <;> simp

/-- The parts between pairs of vertical bars. -/
def splitBars : List Char → List (List Char)
  | [] => [[]]
  | '|' :: '|' :: rest => [] :: splitBars rest
  | c :: rest =>
    match splitBars rest with
    | part :: parts => (c :: part) :: parts
    | [] => [[c]]

theorem splitBars_ne_nil (s : List Char) : splitBars s ≠ [] := by
  fun_cases splitBars s <;> simp_all

/-- The pieces of a list, each with the separator that ends it, which the last one may lack. -/
def splitAfter {α : Type} [DecidableEq α] (sep : α) : List α → List (List α)
  | [] => []
  | a :: rest =>
    if a = sep then [a] :: splitAfter sep rest
    else
      match splitAfter sep rest with
      | [] => [[a]]
      | piece :: pieces => (a :: piece) :: pieces

/-- What stands before and after the first copy of a character. -/
def cutFirst (sep : Char) : List Char → Option (List Char × List Char)
  | [] => none
  | c :: rest =>
    if c = sep then some ([], rest)
    else (cutFirst sep rest).map fun (before, after) => (c :: before, after)

theorem cutFirst_eq_some {sep : Char} {s before after : List Char} :
    cutFirst sep s = some (before, after) ↔ s = before ++ sep :: after ∧ sep ∉ before := by
  induction s generalizing before with
  | nil => simp [cutFirst]
  | cons c rest ih =>
    unfold cutFirst
    split
    · next h =>
      subst h
      cases before with
      | nil => simp [eq_comm]
      | cons d before => simp; grind
    · next h =>
      cases before with
      | nil => simp [h]
      | cons d before => simp [ih]; grind

/-- The rest of a text after its beginning, if it begins so. -/
def afterStart? : List Char → List Char → Option (List Char)
  | [], rest => some rest
  | _, [] => none
  | b :: start, c :: rest => if b = c then afterStart? start rest else none

theorem afterStart?_eq_some {start s rest : List Char} :
    afterStart? start s = some rest ↔ s = start ++ rest := by
  induction start generalizing s with
  | nil => simp [afterStart?, eq_comm]
  | cons b start ih =>
    cases s with
    | nil => simp [afterStart?]
    | cons c s =>
      by_cases h : b = c
      · simp [afterStart?, h, ih]
      · simp [afterStart?, h, Ne.symm h]

/-- What stands between an opening character at the front and a closing one at the end; the two
are different characters of the text. -/
def between? (opening closing : Char) : List Char → Option (List Char)
  | [] => none
  | c :: rest =>
    if c = opening ∧ rest.getLast? = some closing then some rest.dropLast else none

theorem between?_eq_some {opening closing : Char} {s inner : List Char} :
    between? opening closing s = some inner ↔ s = opening :: (inner ++ [closing]) := by
  cases s with
  | nil => simp [between?]
  | cons c rest =>
    simp only [between?, List.cons.injEq]
    constructor
    · intro h
      split at h
      · next hc =>
        cases h
        refine ⟨hc.1, ?_⟩
        obtain ⟨ys, rfl⟩ := List.getLast?_eq_some_iff.1 hc.2
        simp
      · cases h
    · rintro ⟨rfl, rfl⟩
      simp

end ClaExemption.Text
