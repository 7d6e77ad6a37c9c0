import ClaExemption.Regex.Scan

/-!
# Reading regular expressions

`Tree.read` turns the text of an expression into its tree. The reader keeps the
groups and classes that are open on a stack, so that one step handles one
character or one escape, and refuses trees nested deeper than `nestLimit`.
-/

namespace ClaExemption.Regex

open Scan

/-- How deep an expression may nest. -/
def nestLimit : Nat := 250

/-! ## Classes -/

/-- What waits for the class being read to end. -/
inductive ClassFrame where
  /-- A bracket, with the members of the class around it, the last first. -/
  | bracket (negated : Bool) (before : List ClassTree)
  /-- An operator and its left operand. -/
  | operator (op : ClassOp) (left : ClassTree)

/-- A class being read: its members, the last first, what waits for it, and the characters left. -/
structure ClassState where
  items : List ClassTree
  stack : List ClassFrame
  rest : List Char

/-- Applies a waiting operator to its right operand. -/
def ClassState.close (item : ClassTree) : List ClassFrame → ClassTree × List ClassFrame
  | .operator op left :: stack => (.binary op left item, stack)
  | stack => (item, stack)

/-- The names of the classes in brackets and colons. -/
def asciiClassOfName? : String → Option AsciiClass
  | "alnum" => some .alnum
  | "alpha" => some .alpha
  | "ascii" => some .ascii
  | "blank" => some .blank
  | "cntrl" => some .cntrl
  | "digit" => some .digit
  | "graph" => some .graph
  | "lower" => some .lower
  | "print" => some .print
  | "punct" => some .punct
  | "space" => some .space
  | "upper" => some .upper
  | "word" => some .word
  | "xdigit" => some .xdigit
  | _ => none

/-- A class in brackets and colons, after its opening bracket, if that is what stands there. -/
def readAsciiClass? : List Char → Option (ClassTree × List Char)
  | ':' :: rest =>
    let (negated, rest) := match rest with
      | '^' :: more => (true, more)
      | _ => (false, rest)
    let name := rest.takeWhile (· ≠ ':')
    match rest.drop name.length with
    | ':' :: ']' :: rest =>
      (asciiClassOfName? (String.ofList name)).map fun a => (.ascii a negated, rest)
    | _ => none
  | _ => none

/-- The hyphens that start a class, each of them itself. -/
def readHyphens (verbose : Bool) : Nat → List ClassTree → List Char →
    Except Fault (List ClassTree × List Char)
  | 0, _, _ => fail
  | fuel + 1, items, s =>
    match s with
    | [] => fail
    | '-' :: rest => readHyphens verbose fuel (.literal ⟨'-', false⟩ :: items) (skip verbose rest)
    | _ => .ok (items, s)

/-- Opens a class, after its bracket: a circumflex negates it, and hyphens and, without them, a
closing bracket stand for themselves at its start. -/
def ClassState.openBracket (verbose : Bool) (s : ClassState) : Except Fault ClassState := do
  let rest := skip verbose s.rest
  let (negated, rest) := match rest with
    | '^' :: more => (true, skip verbose more)
    | _ => (false, rest)
  let (items, rest) ← readHyphens verbose (rest.length + 1) [] rest
  let stack := .bracket negated s.items :: s.stack
  match items, rest with
  | [], ']' :: more =>
    let more := skip verbose more
    if more.isEmpty then fail else return ⟨[.literal ⟨']', false⟩], stack, more⟩
  | _, _ => return ⟨items, stack, rest⟩

/-- A member of a class that is a single element. -/
def readClassAtom (verbose : Bool) : List Char → Except Fault (Atom × List Char)
  | [] => fail
  | '\\' :: rest => escape verbose rest
  | c :: rest => .ok (.literal ⟨c, false⟩, rest)

/-- A single element as a member of a class; positions and the dot are refused. -/
def ClassTree.ofAtom : Atom → Except Fault ClassTree
  | .literal l => .ok (.literal l)
  | .shorthand p negated => .ok (.shorthand p negated)
  | .property q negated => .ok (.property q negated)
  | .dot | .anchor _ => fail

/-- A member of a class, or two of them with a hyphen between as a range. -/
def readClassRange (verbose : Bool) (s : List Char) : Except Fault (ClassTree × List Char) := do
  let (first, rest) ← readClassAtom verbose s
  let rest := skip verbose rest
  match rest with
  | [] => fail
  | '-' :: after =>
    let next := peekInClass verbose after
    if next = some ']' ∨ next = some '-' then
      return (← ClassTree.ofAtom first, rest)
    else
      let after := skip verbose after
      if after.isEmpty then fail
      else
        let (last, rest) ← readClassAtom verbose after
        match first, last with
        | .literal a, .literal b =>
          if a.char ≤ b.char then return (.range a b, rest) else fail
        | _, _ => fail
  | _ => return (← ClassTree.ofAtom first, rest)

/-- The operator between classes that two equal characters write. -/
def classOpOfChar? : Char → Option ClassOp
  | '&' => some .intersection
  | '-' => some .difference
  | '~' => some .symmetricDifference
  | _ => none

/-- Reads one part of a class; the outcome is the whole class and what follows it when its last
bracket closes. -/
def ClassState.step (verbose : Bool) (s : ClassState) :
    Except Fault (ClassState ⊕ (Tree × List Char)) := do
  match skip verbose s.rest with
  | [] => fail
  | '[' :: rest =>
    match readAsciiClass? rest with
    | some (item, rest) => return .inl { s with items := item :: s.items, rest }
    | none => return .inl (← ClassState.openBracket verbose { s with rest })
  | ']' :: rest =>
    match ClassState.close (.ofItems s.items.reverse) s.stack with
    | (inner, [.bracket negated _]) => return .inr (.bracketed negated inner, rest)
    | (inner, .bracket negated before :: stack) =>
      return .inl ⟨.bracketed negated inner :: before, stack, rest⟩
    | _ => fail
  | c :: rest =>
    match classOpOfChar? c, rest with
    | some op, d :: after =>
      if c = d then
        let (left, stack) := ClassState.close (.ofItems s.items.reverse) s.stack
        return .inl ⟨[], .operator op left :: stack, after⟩
      else
        let (item, rest) ← readClassRange verbose (c :: rest)
        return .inl { s with items := item :: s.items, rest }
    | _, _ =>
      let (item, rest) ← readClassRange verbose (c :: rest)
      return .inl { s with items := item :: s.items, rest }

/-- Reads the parts of a class until it closes. -/
def ClassState.run (verbose : Bool) : Nat → ClassState → Except Fault (Tree × List Char)
  | 0, _ => fail
  | fuel + 1, s => do
    match ← s.step verbose with
    | .inl next => ClassState.run verbose fuel next
    | .inr result => return result

/-- A class, after its opening bracket. -/
def readClass (verbose : Bool) (rest : List Char) : Except Fault (Tree × List Char) := do
  let start ← ClassState.openBracket verbose ⟨[], [], rest⟩
  ClassState.run verbose (rest.length + 1) start

/-! ## Expressions -/

/-- A group that is open: what it does, and the branches and items before it in the expression
around it, the last first, with the mode to return to. -/
structure OpenGroup where
  kind : GroupKind
  branches : List Tree
  items : List Tree
  verbose : Bool

/-- An expression being read. -/
structure State where
  /-- The finished branches of the innermost open group, the last first. -/
  branches : List Tree
  /-- The items of its current branch, the last first. -/
  items : List Tree
  /-- The open groups, the innermost first. -/
  stack : List OpenGroup
  /-- Whether white space and comments are skipped. -/
  verbose : Bool
  /-- How many capturing groups have been opened. -/
  captures : Nat
  /-- The names taken by groups. -/
  names : List String
  /-- The characters left. -/
  rest : List Char

/-- The innermost open expression as one tree. -/
def State.body (s : State) : Tree :=
  .ofBranches (Tree.ofItems s.items.reverse :: s.branches).reverse

/-- Puts an item after the others. -/
def State.push (s : State) (item : Tree) (rest : List Char) : State :=
  { s with items := item :: s.items, rest }

/-- The mode that changes of flags leave. -/
def verboseAfter (verbose : Bool) (changes : FlagChanges) : Bool :=
  ((changes.find? (·.1 == .verbose)).map (·.2)).getD verbose

/-- Opens a group of a given kind. -/
def State.openGroup (s : State) (kind : GroupKind) (rest : List Char) : State :=
  { s with
    branches := []
    items := []
    stack := ⟨kind, s.branches, s.items, s.verbose⟩ :: s.stack
    rest }

/-- Opens the next capturing group. -/
def State.openCapture (s : State) (rest : List Char) : State :=
  { s.openGroup (.capture (s.captures + 1)) rest with captures := s.captures + 1 }

/-- Opens a named group; a name is taken once. -/
def State.openNamed (s : State) (rest : List Char) : Except Fault State := do
  let (name, rest) ← groupName [] rest
  if s.names.contains name then fail
  else return { s.openCapture rest with names := name :: s.names }

/-- Reads what follows an opening parenthesis. -/
def State.openParenthesis (s : State) (rest : List Char) : Except Fault State := do
  match skip s.verbose rest with
  | '?' :: 'P' :: '<' :: rest => s.openNamed rest
  | '?' :: '<' :: '=' :: _ => fail
  | '?' :: '<' :: '!' :: _ => fail
  | '?' :: '<' :: rest => s.openNamed rest
  | '?' :: rest =>
    let (changes, rest) ← flagChanges false false [] rest
    match rest with
    | ':' :: rest =>
      return { s.openGroup (.plain changes) rest with verbose := verboseAfter s.verbose changes }
    | ')' :: rest =>
      if changes.isEmpty then fail
      else return { s.push (.flags changes) rest with verbose := verboseAfter s.verbose changes }
    | _ => fail
  | rest => return s.openCapture rest

/-- Closes the innermost group. -/
def State.closeParenthesis (s : State) (rest : List Char) : Except Fault State :=
  match s.stack with
  | [] => fail
  | g :: stack =>
    .ok { s with
      branches := g.branches
      items := .group g.kind s.body :: g.items
      stack
      verbose := g.verbose
      rest }

/-- Repeats the last item; an item must stand there, and not a change of flags. -/
def State.repeatLast (s : State) (least : Nat) (most : Option Nat) (rest : List Char) :
    Except Fault State :=
  match s.items with
  | [] => fail
  | .empty :: _ | .flags _ :: _ => fail
  | item :: items => .ok { s with items := .repetition least most item :: items, rest }

/-- Drops a question mark, which turns around the preference of a repetition. -/
def dropLazy : List Char → List Char
  | '?' :: rest => rest
  | rest => rest

/-- Reads the bounds of a repetition, after the opening brace. -/
def readBounds (verbose : Bool) (rest : List Char) :
    Except Fault ((Nat × Option Nat) × List Char) := do
  let (least, rest) ← bound verbose (skip verbose rest)
  match rest with
  | '}' :: rest => return ((least, some least), rest)
  | ',' :: rest =>
    match skip verbose rest with
    | '}' :: rest => return ((least, none), rest)
    | rest =>
      let (most, rest) ← bound verbose rest
      match rest with
      | '}' :: rest => if least ≤ most then return ((least, some most), rest) else fail
      | _ => fail
  | _ => fail

/-- Reads one part of an expression, of which the first character is given. -/
def State.step (s : State) (c : Char) (rest : List Char) : Except Fault State := do
  match c with
  | '(' => s.openParenthesis rest
  | ')' => s.closeParenthesis rest
  | '|' =>
    return { s with branches := Tree.ofItems s.items.reverse :: s.branches, items := [], rest }
  | '[' =>
    let (tree, rest) ← readClass s.verbose rest
    return s.push tree rest
  | '?' => s.repeatLast 0 (some 1) (dropLazy rest)
  | '*' => s.repeatLast 0 none (dropLazy rest)
  | '+' => s.repeatLast 1 none (dropLazy rest)
  | '{' =>
    let ((least, most), rest) ← readBounds s.verbose rest
    s.repeatLast least most (dropLazy (skip s.verbose rest))
  | '\\' =>
    let (atom, rest) ← escape s.verbose rest
    return s.push (.atom atom) rest
  | '.' => return s.push (.atom .dot) rest
  | '^' => return s.push (.atom (.anchor .startOfLine)) rest
  | '$' => return s.push (.atom (.anchor .endOfLine)) rest
  | c => return s.push (.atom (.literal ⟨c, false⟩)) rest

/-- Reads the parts of an expression to its end, where no group may be open. -/
def State.run : Nat → State → Except Fault Tree
  | 0, _ => fail
  | fuel + 1, s =>
    match skip s.verbose s.rest with
    | [] => if s.stack.isEmpty then .ok s.body else fail
    | c :: rest => do State.run fuel (← s.step c rest)

/-- The tree of an expression. -/
def Tree.read (text : String) : Except Fault Tree := do
  let chars := text.toList
  let tree ← State.run (chars.length + 1) ⟨[], [], [], false, 0, [], chars⟩
  if tree.depth ≤ nestLimit then return tree else fail

end ClaExemption.Regex
