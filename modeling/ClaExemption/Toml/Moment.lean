import ClaExemption.Number.Read
import ClaExemption.Text.Reader

/-!
# Dates and times in TOML documents

`moment?` reads a date, a time or both, and gives the text under which the
moment is known: `T` between date and time, a capital `Z`, and no more digits of
a second than needed, nine at most.
-/

namespace ClaExemption.Toml

open Text (Reader afterChar?)

/-- The number that exactly so many digits at the front stand for. -/
def readFixed (count : Nat) : Reader Nat := fun s =>
  let digits := s.take count
  if digits.length < count then none
  else (Number.digits? digits).map fun ds => (Number.ofDigits 10 ds, s.drop count)

/-- The number of days of a month, zero if there is no such month. -/
def daysIn (year month : Nat) : Nat :=
  if month = 2 then
    if year % 4 = 0 ∧ (year % 100 ≠ 0 ∨ year % 400 = 0) then 29 else 28
  else if month ∈ [4, 6, 9, 11] then 30
  else if 1 ≤ month ∧ month ≤ 12 then 31
  else 0

/-- Reads a date and checks that the calendar has it. -/
def readDate (s : List Char) : Option (List Char) := do
  let (year, s) ← readFixed 4 s
  let (month, s) ← readFixed 2 (← afterChar? '-' s)
  let (day, s) ← readFixed 2 (← afterChar? '-' s)
  if 1 ≤ day ∧ day ≤ daysIn year month then some s else none

/-- The digits of a fraction of a second as they are known. -/
def shortFraction (ds : List Char) : List Char :=
  match ((ds.take 9).reverse.dropWhile (· == '0')).reverse with
  | [] => ['0']
  | kept => kept

/-- Reads the seconds of a time and their fraction, where they are given, and gives their text. -/
def readSeconds : Reader (List Char) := fun s =>
  match s with
  | ':' :: rest => do
    let (second, after) ← readFixed 2 rest
    if second ≤ 60 then
      match after with
      | '.' :: after =>
        match after.span Number.isDigit with
        | ([], _) => none
        | (ds, after) => some (':' :: rest.take 2 ++ '.' :: shortFraction ds, after)
      | _ => some (':' :: rest.take 2, after)
    else none
  | _ => some ([], s)

/-- Reads a time and gives its text. -/
def readTime : Reader (List Char) := fun s => do
  let (hour, rest) ← readFixed 2 s
  let (minute, rest) ← readFixed 2 (← afterChar? ':' rest)
  if hour ≤ 23 ∧ minute ≤ 59 then
    let (seconds, rest) ← readSeconds rest
    return (s.take 5 ++ seconds, rest)
  else none

/-- The text of the distance from universal time that a whole text is, perhaps nothing. No distance
is written with a plus sign. -/
def offset? (s : List Char) : Option (List Char) :=
  match s with
  | [] => some []
  | ['Z'] | ['z'] => some ['Z']
  | sign :: rest => do
    let (hours, after) ← readFixed 2 rest
    let (minutes, after) ← readFixed 2 (← afterChar? ':' after)
    if (sign = '+' ∨ sign = '-') ∧ hours ≤ 23 ∧ minutes ≤ 59 ∧ after.isEmpty then
      some ((if hours = 0 ∧ minutes = 0 then '+' else sign) :: rest)
    else none

/-- The text of the time, and perhaps the distance from universal time, that follow a date. -/
def afterDate? (s : List Char) : Option (List Char) :=
  match s with
  | [] => some []
  | sep :: rest => do
    if sep = 'T' ∨ sep = 't' ∨ sep = ' ' then
      let (time, rest) ← readTime rest
      return 'T' :: time ++ (← offset? rest)
    else none

/-- The text of the moment that a whole text is. -/
def moment? (s : List Char) : Option (List Char) :=
  match readDate s with
  | some rest => (afterDate? rest).map fun more => s.take 10 ++ more
  | none =>
    match readTime s with
    | some (time, []) => some time
    | _ => none

end ClaExemption.Toml
