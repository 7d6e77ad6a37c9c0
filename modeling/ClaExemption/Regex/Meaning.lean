import ClaExemption.Regex.Expr
import ClaExemption.Regex.Read

/-!
# From syntax trees to expressions

`Tree.meaning` resolves the flags of a tree and turns its classes into sets of
characters. Outside the Unicode mode an expression may only ask for characters
of ASCII, because the byte of any other could be part of a longer character.
-/

namespace ClaExemption.Regex

/-- The settings in force at a place of an expression. -/
structure Settings where
  ignoreCase : Bool := false
  multiLine : Bool := false
  dotMatchesAll : Bool := false
  unicode : Bool := true
  carriageReturn : Bool := false
deriving DecidableEq, Repr

/-- Applies one change of a flag; the preference of repetitions and the verbose mode have no
bearing on what is matched. -/
def Settings.apply (s : Settings) : Flag × Bool → Settings
  | (.ignoreCase, on) => { s with ignoreCase := on }
  | (.multiLine, on) => { s with multiLine := on }
  | (.dotMatchesAll, on) => { s with dotMatchesAll := on }
  | (.unicode, on) => { s with unicode := on }
  | (.carriageReturn, on) => { s with carriageReturn := on }
  | (.swapGreed, _) | (.verbose, _) => s

namespace CharSet

/-- No character. -/
def none : CharSet := ⟨fun _ => false, 0⟩

/-- One range of characters. -/
def range (first last : Nat) : CharSet := ⟨fun c => first ≤ c && c ≤ last, 1⟩

/-- The characters of either set. -/
def union (a b : CharSet) : CharSet := ⟨fun c => a.mem c || b.mem c, a.pieces + b.pieces⟩

/-- The characters outside a set. -/
def negate (a : CharSet) : CharSet := ⟨fun c => !a.mem c, a.pieces + 8⟩

/-- The characters outside a set, if it is to be negated. -/
def negateIf (negated : Bool) (a : CharSet) : CharSet := if negated then a.negate else a

/-- Several ranges of characters. -/
def ranges (rs : List (Nat × Nat)) : CharSet :=
  ⟨fun c => rs.any fun (first, last) => first ≤ c && c ≤ last, rs.length⟩

/-- The other case of a letter of ASCII, and any other character itself. -/
def swapAsciiCase (c : Nat) : Nat :=
  if (0x41 ≤ c && c ≤ 0x5a) || (0x61 ≤ c && c ≤ 0x7a) then c ^^^ 0x20 else c

/-- The characters that differ from a member in letter case alone. -/
def foldCase (s : Settings) (a : CharSet) : CharSet :=
  if s.ignoreCase then
    if s.unicode then ⟨fun c => (Unicode.foldOrbit c).any a.mem, 2 * a.pieces⟩
    else ⟨fun c => a.mem c || a.mem (swapAsciiCase c), 2 * a.pieces⟩
  else a

end CharSet

/-- The ranges of a class in brackets and colons. -/
def AsciiClass.ranges : AsciiClass → List (Nat × Nat)
  | .alnum => [(0x30, 0x39), (0x41, 0x5a), (0x61, 0x7a)]
  | .alpha => [(0x41, 0x5a), (0x61, 0x7a)]
  | .ascii => [(0x00, 0x7f)]
  | .blank => [(0x09, 0x09), (0x20, 0x20)]
  | .cntrl => [(0x00, 0x1f), (0x7f, 0x7f)]
  | .digit => [(0x30, 0x39)]
  | .graph => [(0x21, 0x7e)]
  | .lower => [(0x61, 0x7a)]
  | .print => [(0x20, 0x7e)]
  | .punct => [(0x21, 0x2f), (0x3a, 0x40), (0x5b, 0x60), (0x7b, 0x7e)]
  | .space => [(0x09, 0x0d), (0x20, 0x20)]
  | .upper => [(0x41, 0x5a)]
  | .word => [(0x30, 0x39), (0x41, 0x5a), (0x5f, 0x5f), (0x61, 0x7a)]
  | .xdigit => [(0x30, 0x39), (0x41, 0x46), (0x61, 0x66)]

/-- The characters of a class with a one-letter escape. -/
def ShorthandClass.set (unicode : Bool) : ShorthandClass → CharSet
  | .digit => if unicode then ⟨Unicode.digit, 72⟩ else .ranges AsciiClass.digit.ranges
  | .space => if unicode then ⟨Unicode.whiteSpace, 10⟩ else .ranges AsciiClass.space.ranges
  | .word => if unicode then ⟨Unicode.wordChar, 800⟩ else .ranges AsciiClass.word.ranges

/-- A set that may be negated: outside the Unicode mode it may not. -/
def negatedSet (s : Settings) (negated : Bool) (set : CharSet) : Except Fault CharSet :=
  if negated && !s.unicode then .error .malformed else .ok (set.negateIf negated)

/-- The set of a class with a one-letter escape. -/
def shorthandSet (s : Settings) (p : ShorthandClass) (negated : Bool) : Except Fault CharSet :=
  negatedSet s negated (p.set s.unicode)

/-- The set of a property, which only the Unicode mode knows. -/
def propertySet (s : Settings) (q : Unicode.Query) (negated : Bool) : Except Fault CharSet :=
  match q.resolve? with
  | some mem =>
    if s.unicode then .ok ((CharSet.foldCase s ⟨mem, 600⟩).negateIf negated)
    else .error .malformed
  | none => .error .malformed

/-- The code of a character in a class, which outside the Unicode mode must be one of ASCII. -/
def classCode (s : Settings) (l : Literal) : Except Fault Nat :=
  if s.unicode ∨ l.char.toNat ≤ 0x7f then .ok l.char.toNat else .error .malformed

/-- The set that an operator makes of two sets. -/
def ClassOp.apply : ClassOp → CharSet → CharSet → CharSet
  | .intersection, a, b => ⟨fun c => a.mem c && b.mem c, max a.pieces b.pieces⟩
  | .difference, a, b => ⟨fun c => a.mem c && !b.mem c, a.pieces + b.pieces⟩
  | .symmetricDifference, a, b => ⟨fun c => a.mem c != b.mem c, a.pieces + b.pieces⟩

mutual

/-- The set of a class. Letter case is dropped before a class is negated and before an operator is
applied. -/
def ClassTree.meaning (s : Settings) : ClassTree → Except Fault CharSet
  | .literal l => do
    let c ← classCode s l
    return .range c c
  | .range first last => do return .range (← classCode s first) (← classCode s last)
  | .ascii a negated => negatedSet s negated (CharSet.foldCase s (.ranges a.ranges))
  | .shorthand p negated => shorthandSet s p negated
  | .property q negated => propertySet s q negated
  | .bracketed negated inner => do
    negatedSet s negated (CharSet.foldCase s (← inner.meaning s))
  | .union items => ClassTree.meaningList s items
  | .binary op left right => do
    let left ← left.meaning s
    let right ← right.meaning s
    return op.apply (left.foldCase s) (right.foldCase s)

/-- The union of the sets of several classes. -/
def ClassTree.meaningList (s : Settings) : List ClassTree → Except Fault CharSet
  | [] => .ok .none
  | item :: items => do
    let first ← item.meaning s
    return first.union (← ClassTree.meaningList s items)

end

/-- The condition of an anchor. -/
def Anchor.look (s : Settings) : Anchor → Look
  | .startOfLine =>
    if s.multiLine then if s.carriageReturn then .lineStartAnyEnd else .lineStart else .textStart
  | .endOfLine =>
    if s.multiLine then if s.carriageReturn then .lineEndAnyEnd else .lineEnd else .textEnd
  | .startOfText => .textStart
  | .endOfText => .textEnd
  | .wordBoundary => .wordBoundary s.unicode
  | .notWordBoundary => .notWordBoundary s.unicode
  | .wordStart => .wordStart s.unicode
  | .wordEnd => .wordEnd s.unicode
  | .wordStartHalf => .wordStartHalf s.unicode
  | .wordEndHalf => .wordEndHalf s.unicode

/-- The set of the dot, which only the Unicode mode knows. -/
def dotSet (s : Settings) : Except Fault CharSet :=
  if !s.unicode then .error .malformed
  else if s.dotMatchesAll then .ok ⟨fun _ => true, 9⟩
  else if s.carriageReturn then .ok ⟨fun c => c != 0x0a && c != 0x0d, 9⟩
  else .ok ⟨fun c => c != 0x0a, 9⟩

/-- The set of a single character. -/
def literalSet (s : Settings) (l : Literal) : Except Fault CharSet :=
  if s.unicode ∨ l.char.toNat ≤ 0x7f then
    .ok (CharSet.foldCase s (.range l.char.toNat l.char.toNat))
  else if l.isByte then .error .malformed
  else .ok (.range l.char.toNat l.char.toNat)

/-- The expression of a single element. -/
def Atom.meaning (s : Settings) : Atom → Except Fault (Expr CharSet Look)
  | .literal l => (literalSet s l).map .chars
  | .dot => (dotSet s).map .chars
  | .anchor a => .ok (.look (a.look s))
  | .shorthand p negated => (shorthandSet s p negated).map .chars
  | .property q negated => (propertySet s q negated).map .chars

mutual

/-- The expression of a tree under given settings, and the settings that hold after it. -/
def Tree.meaning (s : Settings) : Tree → Except Fault (Expr CharSet Look × Settings)
  | .empty => .ok (.empty, s)
  | .flags changes => .ok (.empty, changes.foldl Settings.apply s)
  | .atom a => do return (← a.meaning s, s)
  | .bracketed negated inner => do
    let set ← negatedSet s negated (CharSet.foldCase s (← inner.meaning s))
    return (.chars set, s)
  | .repetition least most body => do
    let (body, s) ← body.meaning s
    return (.repetition least most body, s)
  | .group (.capture index) body => do
    let (body, _) ← body.meaning s
    return (.capture index body, s)
  | .group (.plain changes) body => do
    let (body, _) ← body.meaning (changes.foldl Settings.apply s)
    return (body, s)
  | .alternation branches => Tree.meaningBranches s branches
  | .concat items => Tree.meaningItems s items

/-- The expression of a sequence; a change of flags reaches the items after it. -/
def Tree.meaningItems (s : Settings) : List Tree → Except Fault (Expr CharSet Look × Settings)
  | [] => .ok (.empty, s)
  | item :: items => do
    let (first, s) ← item.meaning s
    let (rest, s) ← Tree.meaningItems s items
    return (.seq first rest, s)

/-- The expression of an alternation; a change of flags reaches the branches after it. -/
def Tree.meaningBranches (s : Settings) : List Tree → Except Fault (Expr CharSet Look × Settings)
  | [] => .ok (.empty, s)
  | [branch] => branch.meaning s
  | branch :: branches => do
    let (first, s) ← branch.meaning s
    let (rest, s) ← Tree.meaningBranches s branches
    return (.alt first rest, s)

end

end ClaExemption.Regex
