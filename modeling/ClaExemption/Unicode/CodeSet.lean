/-!
# Sets and tables of code points

A property of characters is given by the code points at which it changes.
`CodeSet` holds those change points in ascending order, so that a code point is
a member exactly when an odd number of them lie at or below it, and `CodeTable`
attaches a value to each stretch between two of them. Both are written in the
data modules as the distances between change points, in hexadecimal.
-/

namespace ClaExemption.Unicode

/-- The number of entries at or below `c` in the ascending part `lo ≤ i < hi` of `bounds`, plus
`lo`, by halving. -/
def rank (bounds : Array Nat) (c lo hi : Nat) : Nat :=
  if lo < hi then
    let mid := (lo + hi) / 2
    if bounds.getD mid 0 ≤ c then rank bounds c (mid + 1) hi else rank bounds c lo mid
  else lo
termination_by hi - lo

/-- The value of a lower-case hexadecimal digit. -/
def hexDigit? (c : Char) : Option Nat :=
  if '0' ≤ c ∧ c ≤ '9' then some (c.toNat - '0'.toNat)
  else if 'a' ≤ c ∧ c ≤ 'f' then some (c.toNat - 'a'.toNat + 10)
  else none

/-- The number that a run of lower-case hexadecimal digits at the front of a word denotes, and the
rest of the word; `acc` is the number read so far. -/
def readHex (acc : Nat) : List Char → Nat × List Char
  | [] => (acc, [])
  | c :: rest =>
    match hexDigit? c with
    | some d => readHex (16 * acc + d) rest
    | none => (acc, c :: rest)

/-- Adds one character to the words read so far; `current` is the unfinished word, backwards. -/
def wordStep (state : Array (List Char) × List Char) (c : Char) : Array (List Char) × List Char :=
  if c = ' ' ∨ c = '\n' then
    (if state.2.isEmpty then state.1 else state.1.push state.2.reverse, [])
  else (state.1, c :: state.2)

/-- The words of a text, which are separated by spaces and line ends. -/
def words (text : String) : Array (List Char) :=
  (wordStep (text.foldl wordStep (#[], [])) ' ').1

/-- A set of code points, by the ascending points at which membership changes. -/
structure CodeSet where
  /-- Where membership changes, the first of them being the least member. -/
  bounds : Array Nat
deriving Inhabited

namespace CodeSet

/-- Whether a code point belongs to the set. -/
def mem (s : CodeSet) (c : Nat) : Bool :=
  rank s.bounds c 0 s.bounds.size % 2 == 1

/-- The set whose change points lie at the given distances from one another. -/
def ofDistances (text : String) : CodeSet :=
  ⟨((words text).foldl (fun (acc : Array Nat × Nat) word =>
    let next := acc.2 + (readHex 0 word).1
    (acc.1.push next, next)) (#[], 0)).1⟩

end CodeSet

/-- A value for every code point, constant between change points. -/
structure CodeTable (α : Type) where
  /-- Where each stretch starts, in ascending order, the first at zero. -/
  starts : Array Nat
  /-- The value on each stretch. -/
  values : Array α
deriving Inhabited

namespace CodeTable

/-- The value at a code point. -/
def get {α : Type} (t : CodeTable α) (default : α) (c : Nat) : α :=
  t.values.getD (rank t.starts c 0 t.starts.size - 1) default

/-- The table written as a list of words, each the length of a stretch followed by the code of its
value. -/
def ofRuns {α : Type} (read : String → α) (text : String) : CodeTable α :=
  let runs := (words text).foldl (fun (acc : Array Nat × Array α × Nat) word =>
    let (length, code) := readHex 0 word
    (acc.1.push acc.2.2, acc.2.1.push (read (String.ofList code)), acc.2.2 + length)) (#[], #[], 0)
  ⟨runs.1, runs.2.1⟩

end CodeTable

end ClaExemption.Unicode
