import ClaExemption.Unicode.Query

/-!
# Syntax trees of regular expressions

`Tree` is an expression as it is written: repetitions, groups, classes with
their operators, and changes of flags that hold from where they stand to the
end of the group around them. `Tree.depth` is the nesting that the limit on
expressions counts.
-/

namespace ClaExemption.Regex

/-- Why an expression is refused. -/
inductive Fault where
  /-- It is not a well-formed expression, or one that could match part of a character. -/
  | malformed
  /-- Its repetitions multiply to more than a search may take up. -/
  | oversized
deriving DecidableEq, Repr

/-- The settings that an expression may switch. -/
inductive Flag where
  /-- Letters match in either case. -/
  | ignoreCase
  /-- The line anchors match at the ends of lines. -/
  | multiLine
  /-- The dot matches line ends. -/
  | dotMatchesAll
  /-- Repetitions prefer fewer copies. -/
  | swapGreed
  /-- Classes are those of Unicode. -/
  | unicode
  /-- A carriage return ends a line too. -/
  | carriageReturn
  /-- White space and comments are skipped. -/
  | verbose
deriving DecidableEq, Repr

/-- Settings switched on or off, in the order written. -/
abbrev FlagChanges := List (Flag × Bool)

/-- The classes with a one-letter escape. -/
inductive ShorthandClass where
  | digit
  | space
  | word
deriving DecidableEq, Repr

/-- The classes with a name in brackets and colons. -/
inductive AsciiClass where
  | alnum
  | alpha
  | ascii
  | blank
  | cntrl
  | digit
  | graph
  | lower
  | print
  | punct
  | space
  | upper
  | word
  | xdigit
deriving DecidableEq, Repr

/-- The operators between classes. -/
inductive ClassOp where
  | intersection
  | difference
  | symmetricDifference
deriving DecidableEq, Repr

/-- A character as written; `isByte` marks the form of two hexadecimal digits, which names a byte
outside the Unicode mode. -/
structure Literal where
  char : Char
  isByte : Bool
deriving DecidableEq, Repr

/-- The positions that an expression can ask for. -/
inductive Anchor where
  | startOfLine
  | endOfLine
  | startOfText
  | endOfText
  | wordBoundary
  | notWordBoundary
  | wordStart
  | wordEnd
  | wordStartHalf
  | wordEndHalf
deriving DecidableEq, Repr

/-- An element that takes no operand. -/
inductive Atom where
  | literal (l : Literal)
  | dot
  | anchor (a : Anchor)
  | shorthand (p : ShorthandClass) (negated : Bool)
  | property (q : Unicode.Query) (negated : Bool)
deriving DecidableEq, Repr

/-- What stands between the brackets of a class. -/
inductive ClassTree where
  | literal (l : Literal)
  | range (first last : Literal)
  | ascii (a : AsciiClass) (negated : Bool)
  | shorthand (p : ShorthandClass) (negated : Bool)
  | property (q : Unicode.Query) (negated : Bool)
  | bracketed (negated : Bool) (inner : ClassTree)
  | union (items : List ClassTree)
  | binary (op : ClassOp) (left right : ClassTree)
deriving Repr

/-- What a pair of parentheses does. -/
inductive GroupKind where
  /-- It captures, under this number. -/
  | capture (index : Nat)
  /-- It only groups, with these settings inside. -/
  | plain (flags : FlagChanges)
deriving DecidableEq, Repr

/-- A regular expression as written. -/
inductive Tree where
  | empty
  | flags (changes : FlagChanges)
  | atom (a : Atom)
  | bracketed (negated : Bool) (inner : ClassTree)
  | repetition (least : Nat) (most : Option Nat) (body : Tree)
  | group (kind : GroupKind) (body : Tree)
  | alternation (branches : List Tree)
  | concat (items : List Tree)
deriving Repr

/-- The items of a sequence as one tree. -/
def Tree.ofItems : List Tree → Tree
  | [] => .empty
  | [item] => item
  | items => .concat items

/-- The branches of an alternation as one tree. -/
def Tree.ofBranches : List Tree → Tree
  | [] => .empty
  | [branch] => branch
  | branches => .alternation branches

/-- The members listed between brackets as one class. -/
def ClassTree.ofItems : List ClassTree → ClassTree
  | [item] => item
  | items => .union items

mutual

/-- The nesting of a class: brackets, lists of members and operators each count one. -/
def ClassTree.depth : ClassTree → Nat
  | .bracketed _ inner => inner.depth + 1
  | .union [] => 0
  | .union (item :: items) => max item.depth (ClassTree.depthList items) + 1
  | .binary _ left right => max left.depth right.depth + 1
  | _ => 0

/-- The greatest nesting of a list of classes. -/
def ClassTree.depthList : List ClassTree → Nat
  | [] => 0
  | item :: items => max item.depth (ClassTree.depthList items)

end

mutual

/-- The nesting of an expression: classes, repetitions, groups, alternations and sequences each
count one. -/
def Tree.depth : Tree → Nat
  | .bracketed _ inner => inner.depth + 1
  | .repetition _ _ body => body.depth + 1
  | .group _ body => body.depth + 1
  | .alternation branches => Tree.depthList branches + 1
  | .concat items => Tree.depthList items + 1
  | _ => 0

/-- The greatest nesting of a list of expressions. -/
def Tree.depthList : List Tree → Nat
  | [] => 0
  | item :: items => max item.depth (Tree.depthList items)

end

end ClaExemption.Regex
