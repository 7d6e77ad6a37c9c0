import ClaExemption.Json.Read

/-!
# The grammar of JSON texts

What a text spells, as relations between a text and what is left of it: white
space (`Spaces`), the parts of a number (`Unsigned`), the content of a text in
quotes (`Content`), and on these values, items and members with the trees that
they spell (`Spells`). `Node.IsSpelled` is about whole texts. White space may
stand wherever the grammar has it, and no tree tells of it.
-/

namespace ClaExemption.Json

/-! ## White space and numbers -/

/-- The characters that are white space. -/
def spaceChars : List Char := [' ', '\t', '\n', '\r']

/-- White space, perhaps none. -/
inductive Spaces : List Glyph → List Glyph → Prop
  | none {s : List Glyph} : Spaces s s
  | more {c : Char} {s rest : List Glyph} : c ∈ spaceChars → Spaces s rest →
    Spaces (some c :: s) rest

/-- Decimal digits, perhaps none. -/
inductive Digits : List Nat → List Glyph → List Glyph → Prop
  | none {s : List Glyph} : Digits [] s s
  | more {g : Glyph} {d : Nat} {ds : List Nat} {s rest : List Glyph} : digitIn? 10 g = some d →
    Digits ds s rest → Digits (d :: ds) (g :: s) rest

/-- Digits that can stand before the point: at least one, and no zero before others. -/
def IsWhole : List Nat → Prop
  | [] => False
  | 0 :: _ :: _ => False
  | _ => True

/-- A point with digits after it, or nothing. -/
inductive Fraction : Option (List Nat) → List Glyph → List Glyph → Prop
  | none {s : List Glyph} : Fraction none s s
  | some {ds : List Nat} {s rest : List Glyph} : ds ≠ [] → Digits ds s rest →
    Fraction (some ds) (some '.' :: s) rest

/-- The sign of an exponent: whether it is a minus sign. -/
inductive Sign : Bool → List Glyph → List Glyph → Prop
  | none {s : List Glyph} : Sign false s s
  | plus {s : List Glyph} : Sign false (some '+' :: s) s
  | minus {s : List Glyph} : Sign true (some '-' :: s) s

/-- An exponent, or nothing. -/
inductive Exponent : Option (Bool × List Nat) → List Glyph → List Glyph → Prop
  | none {s : List Glyph} : Exponent none s s
  | some {mark : Char} {negative : Bool} {ds : List Nat} {s s₁ rest : List Glyph} :
    mark = 'e' ∨ mark = 'E' → Sign negative s s₁ → ds ≠ [] → Digits ds s₁ rest →
    Exponent (some (negative, ds)) (some mark :: s) rest

/-- A number after its sign. -/
inductive Unsigned (w : Written) : List Glyph → List Glyph → Prop
  | parts {s s₁ s₂ rest : List Glyph} : IsWhole w.whole → Digits w.whole s s₁ →
    Fraction w.fraction s₁ s₂ → Exponent w.exponent s₂ rest → Unsigned w s rest

/-! ## Texts in quotes -/

/-- The content of a text, with the quote that closes it. A byte that belongs to no character may
stand in it, and so may half of a pair of codes. -/
inductive Content : List Glyph → List Glyph → Prop
  | close {rest : List Glyph} : Content (some '"' :: rest) rest
  | plain {c : Char} {s rest : List Glyph} : c ≠ '"' → c ≠ '\\' → ¬ c.toNat < 0x20 →
    Content s rest → Content (some c :: s) rest
  | stray {s rest : List Glyph} : Content s rest → Content (none :: s) rest
  | escape {e : Char} {s rest : List Glyph} : (simpleEscape? e).isSome → Content s rest →
    Content (some '\\' :: some e :: s) rest
  | code {a b c d : Glyph} {s rest : List Glyph} : (digitIn? 16 a).isSome → (digitIn? 16 b).isSome →
    (digitIn? 16 c).isSome → (digitIn? 16 d).isSome → Content s rest →
    Content (some '\\' :: some 'u' :: a :: b :: c :: d :: s) rest

/-- What the content of a text says, which is flawed if it is not all characters. -/
def contentOf (s : List Glyph) : Except Fault String := readContent false [] s

/-! ## Values -/

/-- What a piece of a text can be: a value, the items of a sequence, or the members of an object
from the quote of the first name on. -/
inductive Piece where
  | value (node : Node)
  | items (items : List Node)
  | members (members : List (Except Fault String × Node))

/-- A piece of a text spells a tree, or the trees of items or members up to the bracket or brace
that closes them. -/
inductive Spells : Piece → List Glyph → List Glyph → Prop
  | null {rest : List Glyph} : Spells (.value .null) ("null".toList.map some ++ rest) rest
  | yes {rest : List Glyph} : Spells (.value (.bool true)) ("true".toList.map some ++ rest) rest
  | no {rest : List Glyph} : Spells (.value (.bool false)) ("false".toList.map some ++ rest) rest
  | positive {w : Written} {s rest : List Glyph} : w.negative = false → Unsigned w s rest →
    Spells (.value (.number w.value)) s rest
  | negative {w : Written} {s rest : List Glyph} : w.negative = true → Unsigned w s rest →
    Spells (.value (.number w.value)) (some '-' :: s) rest
  | text {s rest : List Glyph} : Content s rest →
    Spells (.value (.text (contentOf s))) (some '"' :: s) rest
  | emptyArray {s rest : List Glyph} : Spaces s (some ']' :: rest) →
    Spells (.value (.array [] none)) (some '[' :: s) rest
  | array {items : List Node} {s rest : List Glyph} : Spells (.items items) s rest →
    Spells (.value (.array items none)) (some '[' :: s) rest
  | emptyObject {s rest : List Glyph} : Spaces s (some '\x7d' :: rest) →
    Spells (.value (.object [] none)) (some '\x7b' :: s) rest
  | object {members : List (Except Fault String × Node)} {s s₁ rest : List Glyph} :
    Spaces s (some '"' :: s₁) → Spells (.members members) s₁ rest →
    Spells (.value (.object members none)) (some '\x7b' :: s) rest
  | lastItem {item : Node} {s s₁ s₂ rest : List Glyph} : Spaces s s₁ →
    Spells (.value item) s₁ s₂ → Spaces s₂ (some ']' :: rest) → Spells (.items [item]) s rest
  | nextItem {item : Node} {items : List Node} {s s₁ s₂ s₃ rest : List Glyph} : Spaces s s₁ →
    Spells (.value item) s₁ s₂ → Spaces s₂ (some ',' :: s₃) → Spells (.items items) s₃ rest →
    Spells (.items (item :: items)) s rest
  | lastMember {value : Node} {s s₁ s₂ s₃ s₄ rest : List Glyph} : Content s s₁ →
    Spaces s₁ (some ':' :: s₂) → Spaces s₂ s₃ → Spells (.value value) s₃ s₄ →
    Spaces s₄ (some '\x7d' :: rest) → Spells (.members [(contentOf s, value)]) s rest
  | nextMember {value : Node} {members : List (Except Fault String × Node)}
    {s s₁ s₂ s₃ s₄ s₅ s₆ rest : List Glyph} : Content s s₁ → Spaces s₁ (some ':' :: s₂) →
    Spaces s₂ s₃ → Spells (.value value) s₃ s₄ → Spaces s₄ (some ',' :: s₅) →
    Spaces s₅ (some '"' :: s₆) → Spells (.members members) s₆ rest →
    Spells (.members ((contentOf s, value) :: members)) s rest

/-- A whole text spells a tree, with white space around it. -/
def Node.IsSpelled (t : Node) (s : List Glyph) : Prop :=
  ∃ s₁ s₂, Spaces s s₁ ∧ Spells (.value t) s₁ s₂ ∧ Spaces s₂ []

end ClaExemption.Json
