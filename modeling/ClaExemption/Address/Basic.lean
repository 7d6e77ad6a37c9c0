/-!
# Internet addresses

Addresses of both versions, and endpoints, which add a port. The text of an
address of version six leaves out its longest run of zero groups.
-/

namespace ClaExemption.Address

/-- An address of version four. -/
structure V4 where
  a : UInt8
  b : UInt8
  c : UInt8
  d : UInt8
deriving DecidableEq, Repr

/-- An address of version six. -/
structure V6 where
  /-- The groups, the most significant first. -/
  groups : List UInt16
  length_groups : groups.length = 8
deriving DecidableEq, Repr

/-- An address to bind to. -/
inductive Host where
  | v4 (address : V4)
  /-- With the number of the interface that the address is meant on, zero for any. -/
  | v6 (address : V6) (scope : UInt32)
deriving DecidableEq, Repr

/-- An address and a port. -/
structure Endpoint where
  host : Host
  port : UInt16
deriving DecidableEq, Repr

/-- A number in decimal digits. -/
def decimal (n : Nat) : String := String.ofList (Nat.toDigits 10 n)

/-- A number in hexadecimal digits. -/
def hexadecimal (n : Nat) : String := String.ofList (Nat.toDigits 16 n)

/-- The text of an address of version four. -/
def V4.text (v : V4) : String :=
  ".".intercalate ([v.a, v.b, v.c, v.d].map fun octet => decimal octet.toNat)

/-- The two octets of a group. -/
def octets (group : UInt16) : UInt8 × UInt8 := ((group >>> 8).toUInt8, group.toUInt8)

/-- The group of two octets. -/
def groupOf (high low : UInt8) : UInt16 := high.toUInt16 <<< 8 ||| low.toUInt16

/-- The address of version four that an address of version six stands for. -/
def V6.mapped? (v : V6) : Option V4 :=
  match v.groups with
  | [0, 0, 0, 0, 0, 0xffff, g, h] =>
    let (a, b) := octets g
    let (c, d) := octets h
    some ⟨a, b, c, d⟩
  | _ => none

/-- The start and the length of the first longest run of zeros among groups, of which the first one
has the given index. The run that ends there starts at `start`; `best` is the longest one so far. -/
def longestZeros (index start : Nat) (best : Nat × Nat) : List UInt16 → Nat × Nat
  | [] => best
  | g :: groups =>
    if g = 0 then
      let length := index + 1 - start
      longestZeros (index + 1) start (if best.2 < length then (start, length) else best) groups
    else longestZeros (index + 1) (index + 1) best groups

/-- Groups with colons between them. -/
def groupsText (groups : List UInt16) : String :=
  ":".intercalate (groups.map fun group => hexadecimal group.toNat)

/-- The text of an address of version six. -/
def V6.text (v : V6) : String :=
  match v.mapped? with
  | some v4 => "::ffff:" ++ v4.text
  | none =>
    let (start, length) := longestZeros 0 0 (0, 0) v.groups
    if 1 < length then
      groupsText (v.groups.take start) ++ "::" ++ groupsText (v.groups.drop (start + length))
    else groupsText v.groups

namespace Host

/-- The address, without the interface. -/
def addressText : Host → String
  | .v4 address => address.text
  | .v6 address _ => address.text

/-- Whether the address is of version six. -/
def isV6 : Host → Bool
  | .v4 _ => false
  | .v6 _ _ => true

/-- The host as it stands in front of a port. -/
def text : Host → String
  | .v4 address => address.text
  | .v6 address scope =>
    if scope = 0 then "[" ++ address.text ++ "]"
    else "[" ++ address.text ++ "%" ++ decimal scope.toNat ++ "]"

end Host

/-- The text of an endpoint. -/
def Endpoint.text (e : Endpoint) : String := e.host.text ++ ":" ++ decimal e.port.toNat

end ClaExemption.Address
