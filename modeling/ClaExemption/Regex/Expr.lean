import ClaExemption.Regex.Tree

/-!
# Regular expressions by meaning

`Expr` is what an expression asks for once its flags are resolved: sets of
characters, conditions on a position, sequences, choices and repetitions.
`Expr.Spans` says declaratively which stretches of a text an expression covers.
-/

namespace ClaExemption.Regex

/-- A set of characters, and about how many ranges it takes to write it down. -/
structure CharSet where
  mem : Nat → Bool
  pieces : Nat

/-- A condition on a position of a text. -/
inductive Look where
  | textStart
  | textEnd
  | lineStart
  | lineEnd
  /-- After a line end, where a carriage return and a line feed together end a line once. -/
  | lineStartAnyEnd
  /-- Before a line end, where a carriage return and a line feed together end a line once. -/
  | lineEndAnyEnd
  | wordBoundary (unicode : Bool)
  | notWordBoundary (unicode : Bool)
  | wordStart (unicode : Bool)
  | wordEnd (unicode : Bool)
  | wordStartHalf (unicode : Bool)
  | wordEndHalf (unicode : Bool)
deriving DecidableEq, Repr

/-- Word characters within ASCII. -/
def asciiWord (c : Nat) : Bool :=
  (0x30 ≤ c && c ≤ 0x39) || (0x41 ≤ c && c ≤ 0x5a) || c == 0x5f || (0x61 ≤ c && c ≤ 0x7a)

/-- Whether a neighbour of a position is a word character; the end of the text is none. -/
def isWord (unicode : Bool) : Option Char → Bool
  | none => false
  | some c => if unicode then Unicode.wordChar c.toNat else asciiWord c.toNat

/-- Whether a position satisfies a condition, from the characters on its two sides. -/
def Look.holds (before after : Option Char) : Look → Bool
  | .textStart => before.isNone
  | .textEnd => after.isNone
  | .lineStart => before.isNone || before == some '\n'
  | .lineEnd => after.isNone || after == some '\n'
  | .lineStartAnyEnd =>
    before.isNone || before == some '\n' || (before == some '\r' && after != some '\n')
  | .lineEndAnyEnd =>
    after.isNone || after == some '\r' || (after == some '\n' && before != some '\r')
  | .wordBoundary u => isWord u before != isWord u after
  | .notWordBoundary u => isWord u before == isWord u after
  | .wordStart u => !isWord u before && isWord u after
  | .wordEnd u => isWord u before && !isWord u after
  | .wordStartHalf u => !isWord u before
  | .wordEndHalf u => !isWord u after

/-- An expression over a type of sets of characters and a type of conditions on positions. -/
inductive Expr (σ κ : Type) where
  /-- The empty stretch. -/
  | empty
  /-- One character of a set. -/
  | chars (set : σ)
  /-- The empty stretch at a position that satisfies a condition. -/
  | look (condition : κ)
  /-- One stretch after the other. -/
  | seq (first second : Expr σ κ)
  /-- Either of two. -/
  | alt (left right : Expr σ κ)
  /-- At least so many copies, and at most so many if there is a limit. -/
  | repetition (least : Nat) (most : Option Nat) (body : Expr σ κ)
  /-- A numbered group. -/
  | capture (index : Nat) (body : Expr σ κ)

namespace Expr

/-- Replaces the sets and conditions of an expression. -/
def map {σ κ σ' κ' : Type} (f : σ → σ') (g : κ → κ') : Expr σ κ → Expr σ' κ'
  | .empty => .empty
  | .chars set => .chars (f set)
  | .look condition => .look (g condition)
  | .seq a b => .seq (a.map f g) (b.map f g)
  | .alt a b => .alt (a.map f g) (b.map f g)
  | .repetition least most body => .repetition least most (body.map f g)
  | .capture index body => .capture index (body.map f g)

/-- Whether an expression covers only empty stretches. -/
def isZeroWidth {σ κ : Type} : Expr σ κ → Bool
  | .empty => true
  | .chars _ => false
  | .look _ => true
  | .seq a b => a.isZeroWidth && b.isZeroWidth
  | .alt a b => a.isZeroWidth && b.isZeroWidth
  | .repetition _ most body => most == some 0 || body.isZeroWidth
  | .capture _ body => body.isZeroWidth

/-- The greatest number of a group that can take part in a match, zero if there is none. A group
that is repeated no times takes no part. -/
def lastGroup {σ κ : Type} : Expr σ κ → Nat
  | .empty => 0
  | .chars _ => 0
  | .look _ => 0
  | .seq a b => max a.lastGroup b.lastGroup
  | .alt a b => max a.lastGroup b.lastGroup
  | .repetition _ most body => if most = some 0 then 0 else body.lastGroup
  | .capture index body => max index body.lastGroup

end Expr

/-- `Spans text e i j` says that the expression covers the characters of `text` from position `i`
up to position `j`. A repetition takes one more copy while some are missing or its limit leaves
room. -/
inductive Expr.Spans (text : List Char) : Expr CharSet Look → Nat → Nat → Prop
  | empty {i : Nat} (bound : i ≤ text.length) : Expr.Spans text .empty i i
  | chars {set : CharSet} {i : Nat} {c : Char} (at_i : text[i]? = some c)
      (mem : set.mem c.toNat = true) : Expr.Spans text (.chars set) i (i + 1)
  | look {l : Look} {i : Nat} (bound : i ≤ text.length)
      (holds : l.holds (if i = 0 then none else text[i - 1]?) text[i]? = true) :
      Expr.Spans text (.look l) i i
  | seq {a b : Expr CharSet Look} {i j k : Nat} (first : Expr.Spans text a i j)
      (second : Expr.Spans text b j k) : Expr.Spans text (.seq a b) i k
  | left {a b : Expr CharSet Look} {i j : Nat} (h : Expr.Spans text a i j) :
      Expr.Spans text (.alt a b) i j
  | right {a b : Expr CharSet Look} {i j : Nat} (h : Expr.Spans text b i j) :
      Expr.Spans text (.alt a b) i j
  | done {most : Option Nat} {body : Expr CharSet Look} {i : Nat} (bound : i ≤ text.length) :
      Expr.Spans text (.repetition 0 most body) i i
  | more {least : Nat} {most : Option Nat} {body : Expr CharSet Look} {i j k : Nat}
      (room : least ≠ 0 ∨ most ≠ some 0) (one : Expr.Spans text body i j)
      (rest : Expr.Spans text (.repetition (least - 1) (most.map (· - 1)) body) j k) :
      Expr.Spans text (.repetition least most body) i k
  | capture {index : Nat} {body : Expr CharSet Look} {i j : Nat} (h : Expr.Spans text body i j) :
      Expr.Spans text (.capture index body) i j

end ClaExemption.Regex
