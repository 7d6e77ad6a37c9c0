import ClaExemption.Number.Shortest

/-!
# Numbers in JSON texts

A number without fraction and exponent that fits 64 bits is an integer; every
other one is a double, computed from its leading digits by one multiplication or
division by a power of ten. A number beyond the range of doubles is none.
-/

namespace ClaExemption.Json

/-- A number as a JSON text gives it. -/
inductive Numeral where
  /-- An integer from zero to the greatest unsigned one of 64 bits. -/
  | natural (n : UInt64)
  /-- A negative integer of 64 bits. -/
  | negative (n : Int64)
  /-- Any other number. -/
  | fraction (x : Float)
  /-- A number that no double is near. -/
  | outOfRange

/-- The parts of a number as written: its sign, its digits before and after the point, and the sign
and digits of its exponent. -/
structure Written where
  negative : Bool
  whole : List Nat
  fraction : Option (List Nat)
  exponent : Option (Bool × List Nat)

/-- Takes up digits as long as their number fits 64 bits, and gives back the digits left. -/
def takeSignificand : Nat → List Nat → Nat × List Nat
  | acc, [] => (acc, [])
  | acc, d :: ds =>
    if 10 * acc + d < UInt64.size then takeSignificand (10 * acc + d) ds else (acc, d :: ds)

/-- The significand times a power of ten; none if that is beyond the range of doubles. Powers past
the least one are divided out in steps. -/
def scale : Nat → Float → Int → Option Float
  | 0, x, _ => some x
  | fuel + 1, x, e =>
    if e.natAbs ≤ 308 then
      let power := Float.ofScientific 1 false e.natAbs
      if 0 ≤ e then
        let y := x * power
        if y.isInf then none else some y
      else some (x / power)
    else if x == 0.0 then some x
    else if 0 ≤ e then none
    else scale fuel (x / Float.ofScientific 1 false 308) (e + 308)

/-- The number that digits stand for, if it is less than the limit. -/
def smallNumber (limit : Nat) (ds : List Nat) : Option Nat :=
  ds.foldl (fun acc d => acc.bind fun n => if 10 * n + d < limit then some (10 * n + d) else none)
    (some 0)

/-- The double with a significand and an exponent. -/
def signed (negative : Bool) (x : Float) : Numeral :=
  .fraction (if negative then -x else x)

/-- The number that is written. -/
def Written.value (w : Written) : Numeral :=
  let (significand, rest) := takeSignificand 0 w.whole
  let integral := rest.isEmpty && w.fraction.isNone && w.exponent.isNone
  if integral then
    if !w.negative then .natural (UInt64.ofNat significand)
    else if significand = 0 ∨ significand > 0x8000000000000000 then
      signed true (UInt64.ofNat significand).toFloat
    else .negative (Int64.ofInt (-significand))
  else
    let fraction := w.fraction.getD []
    let (significand, unread) := takeSignificand significand fraction
    let start : Int := rest.length - (fraction.length - unread.length : Nat)
    let (negativeExponent, ds) := w.exponent.getD (false, [])
    match smallNumber 0x80000000 ds with
    | none =>
      if significand ≠ 0 ∧ !negativeExponent then .outOfRange else signed w.negative 0.0
    | some e =>
      match scale 10 (UInt64.ofNat significand).toFloat
          (if negativeExponent then start - e else start + e) with
      | none => .outOfRange
      | some x => signed w.negative x

end ClaExemption.Json
