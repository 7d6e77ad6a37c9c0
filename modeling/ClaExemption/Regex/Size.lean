import ClaExemption.Regex.Expr

/-!
# The size of an expression

Counted repetitions are paid for by their number of copies, so a short
expression can stand for a huge one. `Expr.size` estimates the bytes that its
written-out form takes up, and `sizeLimit` bounds them.
-/

namespace ClaExemption.Regex

/-- The greatest size of an expression, in bytes. -/
def sizeLimit : Nat := 10 * 1024 * 1024

/-- The bytes that one state of a search takes up. -/
def stateSize : Nat := 24

/-- The bytes that a range of a set of many ranges takes up. -/
def pieceSize : Nat := 60

/-- The size of a set of characters. -/
def CharSet.size (set : CharSet) : Nat :=
  if set.pieces ≤ 2 then stateSize else stateSize + pieceSize * set.pieces

/-- The size of an expression with its repetitions written out. A body that covers only empty
stretches is written once. -/
def Expr.size : Expr CharSet Look → Nat
  | .empty => stateSize
  | .chars set => set.size
  | .look _ => stateSize
  | .seq a b => a.size + b.size
  | .alt a b => a.size + b.size + stateSize
  | .repetition least most body =>
    if most = some 0 then stateSize
    else if body.isZeroWidth then body.size + 2 * stateSize
    else
      match most with
      | none => max least 1 * body.size + 2 * stateSize
      | some most => least * body.size + (most - least) * (body.size + stateSize) + stateSize
  | .capture _ body => body.size + 2 * stateSize

end ClaExemption.Regex
