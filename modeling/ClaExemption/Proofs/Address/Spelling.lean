import ClaExemption.Address.Read
import ClaExemption.Proofs.Number.Decimal

/-!
# How addresses are spelled

The grammar of hosts, said without the readers. An address of version four has
the one spelling of four decimal octets. One of version six is a row of eight
groups of hexadecimal digits (`Row`), or two shorter rows on either side of a
pair of colons that stands for zeros; the last two groups of a row may be spelled
as an address of version four.
-/

namespace ClaExemption.Address

open Number (IsNumeral)

/-- A group is spelled with one to four hexadecimal digits of either case. -/
structure IsGroup (t : List Char) (g : UInt16) : Prop where
  numeral : IsNumeral 16 t g.toNat
  short : t.length ≤ 4

/-- Groups with colons between them, of which the last two may be spelled as an address of version
four, as the flag tells. -/
inductive Row : Bool → List Char → List UInt16 → Prop
  | group {t : List Char} {g : UInt16} : IsGroup t g → Row false t [g]
  | quad (v : V4) : Row true v.text.toList [groupOf v.a v.b, groupOf v.c v.d]
  | more {embedded : Bool} {t s : List Char} {g : UInt16} {gs : List UInt16} : IsGroup t g →
    Row embedded s gs → Row embedded (t ++ ':' :: s) (g :: gs)

/-- What may stand on one side of a pair of colons: a row, or nothing. -/
inductive Side : Bool → List Char → List UInt16 → Prop
  | nothing : Side false [] []
  | row {embedded : Bool} {t : List Char} {gs : List UInt16} : Row embedded t gs →
    Side embedded t gs

/-- An address of version six is spelled with all its groups, or with a pair of colons in place of
one or more zeros, in front of which no address of version four stands. -/
inductive V6.IsSpelled (v : V6) : List Char → Prop
  | full {embedded : Bool} {t : List Char} : Row embedded t v.groups → IsSpelled v t
  | short {embedded : Bool} {t s : List Char} {front back : List UInt16} {zeros : Nat} :
    Side false t front → Side embedded s back →
    v.groups = front ++ List.replicate (zeros + 1) 0 ++ back → IsSpelled v (t ++ ':' :: ':' :: s)

/-- A host is spelled as an address of version four, or as one of version six in square brackets,
perhaps with a percent sign and the number of an interface after it. -/
inductive Host.IsSpelled : Host → List Char → Prop
  | v4 (v : V4) : IsSpelled (.v4 v) v.text.toList
  | v6 {v : V6} {t : List Char} : v.IsSpelled t → IsSpelled (.v6 v 0) ('[' :: (t ++ [']']))
  | interface {v : V6} {t s : List Char} {scope : UInt32} : v.IsSpelled t →
    IsNumeral 10 s scope.toNat → IsSpelled (.v6 v scope) ('[' :: (t ++ '%' :: (s ++ [']'])))

end ClaExemption.Address
