/-!
# Digits

`digitIn?` is the value of a digit in a base up to sixteen, `takeDigits` cuts the
digits off the front of a text, and `ofDigits` is the number that they stand for.
-/

namespace ClaExemption.Number

/-- The value of a digit, letters of either case being those from ten on; sixteen for a character
that is none. -/
def digitValue (c : Char) : Nat :=
  if '0' ≤ c ∧ c ≤ '9' then c.toNat - '0'.toNat
  else if 'a' ≤ c ∧ c ≤ 'f' then c.toNat - 'a'.toNat + 10
  else if 'A' ≤ c ∧ c ≤ 'F' then c.toNat - 'A'.toNat + 10
  else 16

/-- The value of a digit in a base up to sixteen. -/
def digitIn? (base : Nat) (c : Char) : Option Nat :=
  if digitValue c < base then some (digitValue c) else none

theorem digitIn?_eq_some {base : Nat} {c : Char} {d : Nat} :
    digitIn? base c = some d ↔ digitValue c < base ∧ digitValue c = d := by
  simp [digitIn?]

/-- Whether a character is a decimal digit. -/
def isDigit (c : Char) : Bool := (digitIn? 10 c).isSome

/-- The number that digits stand for in a base. -/
def ofDigits (base : Nat) (ds : List Nat) : Nat := ds.foldl (fun n d => n * base + d) 0

theorem ofDigits_concat (base : Nat) (ds : List Nat) (d : Nat) :
    ofDigits base (ds ++ [d]) = ofDigits base ds * base + d := by
  simp [ofDigits]

/-- The digits at the front of a text, and the rest of it. -/
def takeDigits (base : Nat) : List Char → List Nat × List Char
  | [] => ([], [])
  | c :: rest =>
    match digitIn? base c with
    | some d =>
      let (ds, after) := takeDigits base rest
      (d :: ds, after)
    | none => ([], c :: rest)

end ClaExemption.Number
