import ClaExemption.Number.Digit

/-!
# Reading numbers

`natural?` and `integer?` read whole texts of decimal digits with a sign, and
`float?` reads a double from a decimal, rounding to the nearest one.
-/

namespace ClaExemption.Number

/-- The digits of a text that has nothing but decimal digits, and at least one. -/
def digits? : List Char → Option (List Nat)
  | [] => none
  | s => s.mapM (digitIn? 10)

/-- Cuts the sign off a text: whether it is a minus sign, and the rest. -/
def cutSign : List Char → Bool × List Char
  | '+' :: rest => (false, rest)
  | '-' :: rest => (true, rest)
  | s => (false, s)

/-- A natural number in decimal digits, perhaps with a plus sign. -/
def natural? (s : List Char) : Option Nat :=
  let digits := match s with
    | '+' :: rest => rest
    | s => s
  (digits? digits).map (ofDigits 10)

/-- An integer in decimal digits, perhaps with a sign. -/
def integer? (s : List Char) : Option Int :=
  let (negative, rest) := cutSign s
  (digits? rest).map fun ds =>
    let n : Int := ofDigits 10 ds
    if negative then -n else n

/-- The least integer of 64 bits. -/
def minInt64 : Int := -0x8000000000000000

/-- The greatest integer of 64 bits. -/
def maxInt64 : Int := 0x7fffffffffffffff

/-- An integer that fits 64 bits. -/
def int64? (s : List Char) : Option Int :=
  (integer? s).filter fun n => minInt64 ≤ n && n ≤ maxInt64

/-- The double nearest to `m · 10 ^ e`. Beyond a few hundred places the answer is infinity or zero,
whatever the digits. -/
def ofScientific (m : Nat) (e : Int) : Float :=
  let size := ((Nat.toDigits 10 m).length : Int) + e
  if m = 0 ∨ size < -400 then 0.0
  else if 400 < size then Float.ofScientific 1 false 400
  else Float.ofScientific m (decide (e < 0)) e.natAbs

/-- The fraction at the front of a text: the digits after a point, if there is one. -/
def cutFraction : List Char → List Char × List Char
  | '.' :: rest => rest.span isDigit
  | s => ([], s)

/-- The exponent that a whole text is, zero for no text. -/
def exponent? : List Char → Option Int
  | [] => some 0
  | e :: rest => if e = 'e' ∨ e = 'E' then integer? rest else none

/-- The double of a decimal without sign: digits with a point anywhere among them, and perhaps an
exponent. -/
def decimal? (s : List Char) : Option Float := do
  let (whole, rest) := s.span isDigit
  let (fraction, rest) := cutFraction rest
  let ds ← digits? (whole ++ fraction)
  let e ← exponent? rest
  return ofScientific (ofDigits 10 ds) (e - fraction.length)

/-- The words for values that are no decimals, in lower case. -/
def word? (s : List Char) : Option Float :=
  match String.ofList (s.map Char.toLower) with
  | "inf" | "infinity" => some (1.0 / 0.0)
  | "nan" => some (0.0 / 0.0)
  | _ => none

/-- A double: a decimal or a word, perhaps with a sign. -/
def float? (s : List Char) : Option Float :=
  let (negative, rest) := cutSign s
  ((decimal? rest).or (word? rest)).map fun x => if negative then -x else x

end ClaExemption.Number
