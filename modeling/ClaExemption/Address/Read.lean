import ClaExemption.Address.Basic
import ClaExemption.Number.Digit
import ClaExemption.Text.Reader

/-!
# Reading addresses

`Host.read` and `Endpoint.read` read from the front of a text and give back the
rest; `Endpoint.parse?` wants the whole of it. `Endpoint.ofHost?` joins a host
and a port by a colon and reads the result.
-/

namespace ClaExemption.Address

open Number (ofDigits takeDigits)
open Text (Reader afterChar?)

/-- How a number is written. -/
structure NumberForm where
  radix : Nat
  /-- The least number that is too great. -/
  limit : Nat
  /-- The most digits allowed. -/
  maxDigits : Option Nat
  /-- Whether zeros may stand in front. -/
  leadingZeros : Bool

/-- The form of an octet. -/
def octetForm : NumberForm := ⟨10, UInt8.size, some 3, false⟩

/-- The form of a group. -/
def groupForm : NumberForm := ⟨16, UInt16.size, some 4, true⟩

/-- The form of a port. -/
def portForm : NumberForm := ⟨10, UInt16.size, none, true⟩

/-- The form of the number of an interface. -/
def scopeForm : NumberForm := ⟨10, UInt32.size, none, true⟩

/-- Whether digits are a number of a form. -/
def NumberForm.admits (form : NumberForm) (ds : List Nat) : Bool :=
  !ds.isEmpty && form.maxDigits.all (ds.length ≤ ·)
    && (form.leadingZeros || ds.head? != some 0 || ds.length == 1)
    && ofDigits form.radix ds < form.limit

/-- Reads a number with all the digits that follow. -/
def readNumber (form : NumberForm) : Reader Nat := fun s =>
  let (ds, rest) := takeDigits form.radix s
  if form.admits ds then some (ofDigits form.radix ds, rest) else none

/-- Reads an octet. -/
def readOctet : Reader UInt8 := fun s => do
  let (n, rest) ← readNumber octetForm s
  return (UInt8.ofNat n, rest)

/-- Reads an address of version four. -/
def V4.read : Reader V4 := fun s => do
  let (a, s) ← readOctet s
  let (b, s) ← readOctet (← afterChar? '.' s)
  let (c, s) ← readOctet (← afterChar? '.' s)
  let (d, s) ← readOctet (← afterChar? '.' s)
  return (⟨a, b, c, d⟩, s)

/-- Reads after a colon, which the first group does not need. -/
def readPart {α : Type} (first : Bool) (read : Reader α) : Reader α := fun s =>
  if first then read s else (afterChar? ':' s).bind read

/-- Reads up to so many groups; two of them may be written as an address of version four, which ends
the list, as the flag tells. -/
def readGroups : Nat → Bool → List Char → List UInt16 × Bool × List Char
  | 0, _, s => ([], false, s)
  | count + 1, first, s =>
    match if 0 < count then readPart first V4.read s else none with
    | some (v, rest) => ([groupOf v.a v.b, groupOf v.c v.d], true, rest)
    | none =>
      match readPart first (readNumber groupForm) s with
      | none => ([], false, s)
      | some (g, rest) =>
        let (groups, embedded, rest) := readGroups count false rest
        (UInt16.ofNat g :: groups, embedded, rest)

/-- The address of so many groups, if they are eight. -/
def V6.ofGroups? (groups : List UInt16) : Option V6 :=
  if h : groups.length = 8 then some ⟨groups, h⟩ else none

/-- Reads an address of version six: eight groups, or fewer around a pair of colons. -/
def V6.read : Reader V6 := fun s => do
  let (front, embedded, s) := readGroups 8 true s
  if front.length = 8 then return (← V6.ofGroups? front, s)
  else if embedded then none
  else
    let s ← afterChar? ':' (← afterChar? ':' s)
    let (back, _, s) := readGroups (7 - front.length) true s
    let zeros := List.replicate (8 - front.length - back.length) 0
    return (← V6.ofGroups? (front ++ zeros ++ back), s)

/-- Reads the number of an interface after a percent sign; zero if there is none. -/
def readScope (s : List Char) : Nat × List Char :=
  (((afterChar? '%' s).bind (readNumber scopeForm))).getD (0, s)

/-- Reads a host: an address of version four, or one of version six in square brackets. -/
def Host.read : Reader Host := fun s =>
  match V4.read s with
  | some (v, rest) => some (.v4 v, rest)
  | none => do
    let (v, s) ← V6.read (← afterChar? '[' s)
    let (scope, s) := readScope s
    return (.v6 v (UInt32.ofNat scope), ← afterChar? ']' s)

/-- Reads an endpoint. -/
def Endpoint.read : Reader Endpoint := fun s => do
  let (host, s) ← Host.read s
  let (port, s) ← readNumber portForm (← afterChar? ':' s)
  return (⟨host, UInt16.ofNat port⟩, s)

/-- The endpoint that a text stands for. -/
def Endpoint.parse? (s : String) : Option Endpoint := Endpoint.read.whole s.toList

/-- The endpoint of a host, given as a text, and a port. -/
def Endpoint.ofHost? (host : String) (port : UInt16) : Option Endpoint :=
  Endpoint.parse? (host ++ ":" ++ decimal port.toNat)

/-- The message about a text that is no endpoint. -/
def malformedMessage : String := "invalid socket address syntax"

/-- The endpoint that the service binds to by default. -/
def Endpoint.default : Endpoint := ⟨.v4 ⟨127, 0, 0, 1⟩, 20290⟩

end ClaExemption.Address
