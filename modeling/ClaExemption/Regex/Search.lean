import ClaExemption.Regex.Expr

/-!
# Searching a text

A set of positions of a text is a natural number, position `i` belonging to it
when bit `i` is set. `Expr.ends` maps the positions at which an expression may
start to those at which it may then end, so a search takes time linear in the
text for each step of the expression, however it is nested.
-/

namespace ClaExemption.Regex

/-- Applies a function so many times, stopping early where it no longer changes anything. -/
def iterate (f : Nat → Nat) : Nat → Nat → Nat
  | 0, s => s
  | n + 1, s =>
    let next := f s
    if next = s then s else iterate f n next

/-- The positions reached by applying a function of positions at most so many times: `reached` are
those found so far and `fresh` those found last. -/
def reach (f : Nat → Nat) : Nat → Nat → Nat → Nat
  | 0, reached, _ => reached
  | n + 1, reached, fresh =>
    let next := (f fresh ||| reached) ^^^ reached
    if next = 0 then reached else reach f n (reached ||| next) next

/-- The positions at which an expression may end when it starts at one of the given positions. The
sets and conditions of the expression are given by the positions at which they hold, and `size` is
the number of positions. -/
def Expr.ends (size : Nat) : Expr Nat Nat → Nat → Nat
  | .empty, s => s
  | .chars places, s => (s &&& places) <<< 1
  | .look places, s => s &&& places
  | .seq a b, s => b.ends size (a.ends size s)
  | .alt a b, s => a.ends size s ||| b.ends size s
  | .repetition least most body, s =>
    let start := iterate (body.ends size) least s
    reach (body.ends size) ((most.map (· - least)).getD size) start start
  | .capture _ body, s => body.ends size s

/-- The positions in a list of answers that are true. -/
def positions : List Bool → Nat
  | [] => 0
  | b :: bs => 2 * positions bs + b.toNat

/-- The characters on the two sides of each position of a text, from the first to the last;
`before` is the character before the text. -/
def neighbours (before : Option Char) : List Char → List (Option Char × Option Char)
  | [] => [(before, none)]
  | c :: rest => (before, some c) :: neighbours (some c) rest

/-- Whether an expression covers some stretch of a text. -/
def Expr.isMatch (e : Expr CharSet Look) (text : List Char) : Bool :=
  let sides := neighbours none text
  let prepared : Expr Nat Nat := e.map
    (fun set => positions (text.map fun c => set.mem c.toNat))
    (fun look => positions (sides.map fun (before, after) => look.holds before after))
  prepared.ends sides.length ((1 <<< sides.length) - 1) != 0

end ClaExemption.Regex
