import ClaExemption.Setting.Basic
import ClaExemption.Toml.Moment

/-!
# Values without quotes and brackets in TOML documents

A word is a truth value, a moment, an integer in one of four bases, or a double.
Underscores may stand between the digits of numbers. An integer has to fit 64
bits, and a double has to be in range.
-/

namespace ClaExemption.Toml

/-- Drops the underscores between digits; none if one stands elsewhere. -/
def joinDigits (isDigit : Char → Bool) : List Char → Option (List Char)
  | [] => some []
  | [c] => if isDigit c then some [c] else none
  | a :: '_' :: b :: rest =>
    if isDigit a then (joinDigits isDigit (b :: rest)).map (a :: ·) else none
  | a :: rest => if isDigit a then (joinDigits isDigit rest).map (a :: ·) else none

/-- The number that digits with underscores between them stand for. -/
def naturalIn? (base : Nat) (s : List Char) : Option Nat := do
  let joined ← joinDigits (fun c => (Number.digitIn? base c).isSome) s
  if joined.isEmpty then none
  else return Number.ofDigits base (← joined.mapM (Number.digitIn? base))

/-- Whether a run of digits has no zero in front of other digits. -/
def isProper : List Char → Bool
  | '0' :: _ :: _ => false
  | _ => true

/-- A decimal integer. -/
def decimalInteger? (s : List Char) : Option Int := do
  let (negative, digits) := Number.cutSign s
  if !isProper digits then none
  else
    let n : Int := ← naturalIn? 10 digits
    return if negative then -n else n

/-- An integer in any base. -/
def integer? (s : List Char) : Option Int :=
  (match s with
    | '0' :: 'x' :: digits => (naturalIn? 16 digits).map Int.ofNat
    | '0' :: 'o' :: digits => (naturalIn? 8 digits).map Int.ofNat
    | '0' :: 'b' :: digits => (naturalIn? 2 digits).map Int.ofNat
    | s => decimalInteger? s).filter fun n => Number.minInt64 ≤ n && n ≤ Number.maxInt64

/-- The digits after a point, if there is one. -/
def fractionDigits? : List Char → Option (List Char)
  | [] => some []
  | '.' :: rest =>
    (joinDigits Number.isDigit rest).filter fun ds => !ds.isEmpty
  | _ => none

/-- The exponent after its letter, if there is one. -/
def exponent? : List Char → Option Int
  | [] => some 0
  | _ :: rest => do
    let (negative, digits) := Number.cutSign rest
    let n : Int := ← naturalIn? 10 digits
    return if negative then -n else n

/-- Whether a character begins an exponent. -/
def isExponentMark (c : Char) : Bool := c == 'e' || c == 'E'

/-- A decimal without sign: it has a point with digits on both sides, an exponent, or both. -/
def decimal? (s : List Char) : Option Float := do
  let (base, exponent) := s.span fun c => !isExponentMark c
  let (whole, fraction) := base.span (· != '.')
  if !isProper whole || (fraction.isEmpty && exponent.isEmpty) then none
  else
    let _ ← naturalIn? 10 whole
    let whole ← joinDigits Number.isDigit whole
    let fraction ← fractionDigits? fraction
    let e ← exponent? exponent
    let x := Number.ofScientific (Number.ofDigits 10 (← Number.digits? (whole ++ fraction)))
      (e - fraction.length)
    if x.isInf then none else some x

/-- A double: a decimal or one of two words, perhaps with a sign. -/
def float? (s : List Char) : Option Float :=
  let (negative, rest) := Number.cutSign s
  let x : Option Float :=
    if rest = "inf".toList then some (1.0 / 0.0)
    else if rest = "nan".toList then some (0.0 / 0.0)
    else decimal? rest
  x.map fun x => if negative then -x else x

/-- The value of a word. -/
def word? (s : List Char) : Option Setting :=
  if s = "true".toList then some (.flag true)
  else if s = "false".toList then some (.flag false)
  else
    ((integer? s).map .integer).or <| ((float? s).map .fraction).or <|
      (moment? s).map fun text => .text (String.ofList text)

/-- Whether a character may stand in a word. -/
def isWordChar (c : Char) : Bool := c.isAlphanum || "_+-.:".toList.contains c

/-- Cuts a word off the front. A date takes the time with it that follows after one space. -/
def cutWord (s : List Char) : List Char × List Char :=
  let (word, rest) := s.span isWordChar
  match readDate word, rest with
  | some [], ' ' :: d :: more =>
    if Number.isDigit d then
      let (time, rest) := (d :: more).span isWordChar
      (word ++ ' ' :: time, rest)
    else (word, rest)
  | _, _ => (word, rest)

end ClaExemption.Toml
