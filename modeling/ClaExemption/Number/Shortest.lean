/-!
# The shortest decimal of a binary fraction

`shortest m q` is the decimal with the fewest digits that rounds to the double
`m · 2 ^ q`, and of those the nearest to it. A double stands for the interval
of numbers that round to it, whose ends belong to it when `m` is even.
-/

namespace ClaExemption.Number

/-- A decimal, `digits · 10 ^ exponent`. -/
structure Decimal where
  digits : Nat
  exponent : Int
deriving DecidableEq, Repr

/-- A positive power, or one for an exponent that is not positive. -/
def powPos (base : Nat) (e : Int) : Nat := Nat.pow base e.toNat

/-- The greatest power of ten, as an exponent, that is at most `num / den`. -/
def decimalExponent (num den : Nat) : Int :=
  if den ≤ num then ((Nat.toDigits 10 (num / den)).length : Int) - 1
  else -(below 400 num)
where
  /-- How often a number below one must be multiplied by ten to reach one. -/
  below : Nat → Nat → Nat
    | 0, _ => 0
    | fuel + 1, num => if den ≤ num then 0 else below fuel (10 * num) + 1

/-- Drops the zeros at the end of the digits. -/
def stripZeros : Nat → Decimal → Decimal
  | 0, d => d
  | fuel + 1, d =>
    if d.digits ≠ 0 ∧ d.digits % 10 = 0 then stripZeros fuel ⟨d.digits / 10, d.exponent + 1⟩ else d

/-- The decimal on the grid of multiples of `10 ^ k` that lies in the interval and is nearest to
the value. The value is `4 · m` and the ends of the interval lie `below` under it and 2 above, in
units of `2 ^ e`. -/
def onGrid (m below : Nat) (e k : Int) : Option Decimal :=
  let p := powPos 10 k * powPos 2 (-e)
  let q := powPos 2 e * powPos 10 (-k)
  let inside (d : Nat) : Bool :=
    if m % 2 = 0 then (4 * m - below) * q ≤ d * p && d * p ≤ (4 * m + 2) * q
    else (4 * m - below) * q < d * p && d * p < (4 * m + 2) * q
  let down := 4 * m * q / p
  let up := down + 1
  let half := 2 * (4 * m * q - down * p)
  match inside down, inside up with
  | true, true =>
    some ⟨if half < p ∨ (half = p ∧ down % 2 = 0) then down else up, k⟩
  | true, false => some ⟨down, k⟩
  | false, true => some ⟨up, k⟩
  | false, false => none

/-- The shortest decimal that rounds to `m · 2 ^ q`. The number `below` is the distance to the
lower end of the interval in quarters of `2 ^ q`. -/
def shortest (m below : Nat) (q : Int) : Decimal :=
  if m = 0 then ⟨0, 0⟩
  else
    let e := q - 2
    let top := decimalExponent (4 * m * powPos 2 e) (powPos 2 (-e))
    let found := (List.range 18).findSome? fun (n : Nat) => onGrid m below e (top - n)
    stripZeros 400 (found.getD ⟨0, 0⟩)

/-- The parts of a finite double: whether it is negative, and its shortest decimal. -/
def parts (x : Float) : Bool × Decimal :=
  let bits := x.toBits.toNat
  let negative := bits >>> 63 = 1
  let biased : Nat := (bits >>> 52) % 0x800
  let fraction : Nat := bits % 0x10000000000000
  if biased = 0 then (negative, shortest fraction 2 (-1074))
  else
    let below := if fraction = 0 ∧ biased > 1 then 1 else 2
    (negative, shortest (0x10000000000000 + fraction) below ((biased : Int) - 1075))

/-- Decimal text of a natural number. -/
def digitsOf (n : Nat) : List Char := Nat.toDigits 10 n

/-- The positional text of a decimal, with no more digits after the point than it has. -/
def positional (d : Decimal) : List Char × List Char :=
  let ds := digitsOf d.digits
  if d.digits = 0 then (['0'], [])
  else if 0 ≤ d.exponent then (ds ++ List.replicate d.exponent.toNat '0', [])
  else
    let places := (-d.exponent).toNat
    if places < ds.length then (ds.take (ds.length - places), ds.drop (ds.length - places))
    else (['0'], List.replicate (places - ds.length) '0' ++ ds)

/-- A double in full: positional notation only, no fraction for a whole number. -/
def plainText (x : Float) : String :=
  if x.isNaN then "NaN"
  else
    let (negative, d) := parts x
    let sign := if negative then "-" else ""
    if x.isInf then sign ++ "inf"
    else
      match positional d with
      | (whole, []) => sign ++ String.ofList whole
      | (whole, fraction) => sign ++ String.ofList whole ++ "." ++ String.ofList fraction

/-- The exponent of a number in scientific notation: its sign, and at least two digits. -/
def exponentText (e : Int) : String :=
  let ds := digitsOf e.natAbs
  (if e < 0 then "-" else "+") ++ String.ofList (if ds.length < 2 then '0' :: ds else ds)

/-- A finite double that shows that it is one: a fraction, if only `.0`, or an exponent. Notation
is positional from `0.00001` to below `10 ^ 16`. -/
def markedText (x : Float) : String :=
  let (negative, d) := parts x
  let sign := if negative then "-" else ""
  let ds := digitsOf d.digits
  let point := (ds.length : Int) - 1 + d.exponent
  if d.digits = 0 ∨ (-5 ≤ point ∧ point ≤ 15) then
    match positional d with
    | (whole, []) => sign ++ String.ofList whole ++ ".0"
    | (whole, fraction) => sign ++ String.ofList whole ++ "." ++ String.ofList fraction
  else
    match ds with
    | [] => sign
    | [d] => sign ++ String.singleton d ++ "e" ++ exponentText point
    | d :: more =>
      sign ++ String.singleton d ++ "." ++ String.ofList more ++ "e" ++ exponentText point

end ClaExemption.Number
