import ClaExemption.Number.Digit
import ClaExemption.Regex.Tree
import ClaExemption.Text.Blank
import ClaExemption.Text.Split

/-!
# Reading the small parts of an expression

The parts of a regular expression that contain no other expression: skipped
white space and comments, numbers, names of groups, switches of flags, and
escapes. Each reader takes the characters that are left and gives back those
that it has not used.
-/

namespace ClaExemption.Regex.Scan

open ClaExemption.Text (isBlank)

/-- Refuses the expression. -/
def fail {α : Type} : Except Fault α := .error .malformed

/-- Skips white space, and comments from a number sign to the end of the line. -/
def skipIgnored (inComment : Bool) : List Char → List Char
  | [] => []
  | c :: rest =>
    if inComment then skipIgnored (c != '\n') rest
    else if isBlank c then skipIgnored false rest
    else if c = '#' then skipIgnored true rest
    else c :: rest

/-- Skips what the verbose mode ignores, if it is on. -/
def skip (verbose : Bool) (s : List Char) : List Char :=
  if verbose then skipIgnored false s else s

/-- The character after the current one that a class looks at to tell a range from a hyphen. In the
verbose mode white space and one number sign are passed over; when nothing follows them, the
character right after the current one counts. -/
def peekInClass (verbose : Bool) (after : List Char) : Option Char :=
  if verbose then
    let rest := after.dropWhile isBlank
    let rest := match rest with
      | '#' :: more => more.dropWhile isBlank
      | other => other
    if rest.isEmpty then after.head? else rest.head?
  else after.head?

/-- The digits at the front, with what the verbose mode ignores between them, as a number together
with the count of digits. -/
def takeDigits (verbose : Bool) : Nat → List Char → Nat → Nat → (Nat × Nat) × List Char
  | 0, s, value, count => ((value, count), s)
  | fuel + 1, s, value, count =>
    match s with
    | c :: rest =>
      match Number.digitIn? 10 c with
      | some d => takeDigits verbose fuel (skip verbose rest) (10 * value + d) (count + 1)
      | none => ((value, count), s)
    | [] => ((value, count), [])

/-- A bound of a repetition: white space may surround it, and it must fit 32 bits. -/
def bound (verbose : Bool) (s : List Char) : Except Fault (Nat × List Char) :=
  let s := s.dropWhile isBlank
  let ((value, count), rest) := takeDigits verbose s.length s 0 0
  if count = 0 ∨ value ≥ UInt32.size then fail else .ok (value, rest.dropWhile isBlank)

/-- The character with a code point, which must be one of a character. -/
def charOfCode (code : Nat) : Except Fault Char :=
  if h : code.isValidChar then .ok (Char.ofNatAux code h) else fail

/-- A given number of hexadecimal digits. -/
def fixedHex (verbose : Bool) : Nat → Nat → List Char → Except Fault (Nat × List Char)
  | 0, value, s => .ok (value, s)
  | count + 1, value, s =>
    match s with
    | [] => fail
    | c :: rest =>
      match Number.digitIn? 16 c with
      | none => fail
      | some d =>
        let next := skip verbose rest
        if count ≠ 0 ∧ next.isEmpty then fail
        else fixedHex verbose count (16 * value + d) next

/-- Hexadecimal digits up to a closing brace, at least one. -/
def bracedHex (verbose : Bool) : Nat → Nat → Nat → List Char → Except Fault (Nat × List Char)
  | 0, _, _, _ => fail
  | fuel + 1, count, value, s =>
    match skip verbose s with
    | [] => fail
    | '}' :: rest => if count = 0 then fail else .ok (value, skip verbose rest)
    | c :: rest =>
      match Number.digitIn? 16 c with
      | none => fail
      | some d => bracedHex verbose fuel (count + 1) (16 * value + d) rest

/-- The character named by its code after `x`, `u` or `U`, which take two, four and eight digits,
or any number of them in braces. -/
def hexEscape (verbose : Bool) (digits : Nat) (s : List Char) :
    Except Fault (Atom × List Char) := do
  match skip verbose s with
  | [] => fail
  | '{' :: rest =>
    let (code, rest) ← bracedHex verbose (rest.length + 1) 0 0 rest
    return (.literal ⟨← charOfCode code, false⟩, rest)
  | s =>
    let (code, rest) ← fixedHex verbose digits 0 s
    return (.literal ⟨← charOfCode code, digits = 2⟩, rest)

/-- The characters up to a closing brace, without those that the verbose mode ignores. -/
def untilBrace (verbose : Bool) : Nat → List Char → List Char → Except Fault (List Char × List Char)
  | 0, _, _ => fail
  | fuel + 1, acc, s =>
    match skip verbose s with
    | [] => fail
    | '}' :: rest => .ok (acc.reverse, rest)
    | c :: rest => untilBrace verbose fuel (c :: acc) rest

/-- Cuts a list at the first place where one of the separators of a property and its value stands:
`!=` anywhere before a colon, and a colon before an equals sign. The flag tells the first form. -/
def cutProperty (name : List Char) : Option (Bool × List Char × List Char) :=
  match cutUnequal name with
  | some (before, after) => some (true, before, after)
  | none =>
    ((Text.cutFirst ':' name).or (Text.cutFirst '=' name)).map fun (property, value) =>
      (false, property, value)
where
  /-- Cuts a list at the first `!=`. -/
  cutUnequal : List Char → Option (List Char × List Char)
    | [] => none
    | '!' :: '=' :: rest => some ([], rest)
    | c :: rest => (cutUnequal rest).map fun (before, after) => (c :: before, after)

/-- A class of characters by property, after `p` or, negated, `P`. -/
def propertyEscape (verbose negated : Bool) (s : List Char) : Except Fault (Atom × List Char) := do
  match skip verbose s with
  | [] => fail
  | '{' :: rest =>
    let (name, rest) ← untilBrace verbose (rest.length + 1) [] rest
    match cutProperty name with
    | some (unequal, property, value) =>
      return (.property (.valued (String.ofList property) (String.ofList value))
        (negated != unequal), rest)
    | none => return (.property (.named (String.ofList name)) negated, rest)
  | '\\' :: _ => fail
  | c :: rest => return (.property (.named (String.singleton c)) negated, skip verbose rest)

/-- The characters with a meaning of their own. -/
def isMeta (c : Char) : Bool :=
  ['\\', '.', '+', '*', '?', '(', ')', '|', '[', ']', '\x7b', '\x7d', '^', '$', '#', '&', '-',
    '~'].contains c

/-- Whether a backslash may stand before a character that does not need it. -/
def isEscapable (c : Char) : Bool :=
  c.toNat ≤ 0x7f && !c.isAlphanum && c != '<' && c != '>'

/-- The letters and hyphens of the name of a kind of boundary. -/
def takeBoundaryName (verbose : Bool) : Nat → List Char → List Char → List Char × List Char
  | 0, acc, s => (acc.reverse, s)
  | fuel + 1, acc, s =>
    match s with
    | c :: rest =>
      if c.isAlpha || c == '-' then takeBoundaryName verbose fuel (c :: acc) (skip verbose rest)
      else (acc.reverse, s)
    | [] => (acc.reverse, [])

/-- A boundary of a word, after `b`. A name in braces selects one side of it; braces that do not
start with a letter or hyphen are left for a repetition. -/
def boundaryEscape (verbose : Bool) (s : List Char) : Except Fault (Atom × List Char) :=
  match s with
  | '{' :: rest =>
    let inner := skip verbose rest
    match inner with
    | [] => fail
    | c :: _ =>
      if c.isAlpha || c == '-' then
        let (name, rest) := takeBoundaryName verbose inner.length [] inner
        match rest with
        | '}' :: rest =>
          match String.ofList name with
          | "start" => .ok (.anchor .wordStart, rest)
          | "end" => .ok (.anchor .wordEnd, rest)
          | "start-half" => .ok (.anchor .wordStartHalf, rest)
          | "end-half" => .ok (.anchor .wordEndHalf, rest)
          | _ => fail
        | _ => fail
      else .ok (.anchor .wordBoundary, s)
  | _ => .ok (.anchor .wordBoundary, s)

/-- An escape, after its backslash. -/
def escape (verbose : Bool) (s : List Char) : Except Fault (Atom × List Char) :=
  match s with
  | [] => fail
  | c :: rest =>
    let code (n : Nat) : Except Fault (Atom × List Char) :=
      .ok (.literal ⟨Char.ofNat n, false⟩, rest)
    match c with
    | 'x' => hexEscape verbose 2 rest
    | 'u' => hexEscape verbose 4 rest
    | 'U' => hexEscape verbose 8 rest
    | 'p' => propertyEscape verbose false rest
    | 'P' => propertyEscape verbose true rest
    | 'd' => .ok (.shorthand .digit false, rest)
    | 'D' => .ok (.shorthand .digit true, rest)
    | 's' => .ok (.shorthand .space false, rest)
    | 'S' => .ok (.shorthand .space true, rest)
    | 'w' => .ok (.shorthand .word false, rest)
    | 'W' => .ok (.shorthand .word true, rest)
    | 'a' => code 0x07
    | 'f' => code 0x0c
    | 't' => code 0x09
    | 'n' => code 0x0a
    | 'r' => code 0x0d
    | 'v' => code 0x0b
    | 'A' => .ok (.anchor .startOfText, rest)
    | 'z' => .ok (.anchor .endOfText, rest)
    | 'b' => boundaryEscape verbose rest
    | 'B' => .ok (.anchor .notWordBoundary, rest)
    | '<' => .ok (.anchor .wordStart, rest)
    | '>' => .ok (.anchor .wordEnd, rest)
    | c => if isMeta c || isEscapable c then .ok (.literal ⟨c, false⟩, rest) else fail

/-- The flag with a letter. -/
def flagOfLetter? : Char → Option Flag
  | 'i' => some .ignoreCase
  | 'm' => some .multiLine
  | 's' => some .dotMatchesAll
  | 'U' => some .swapGreed
  | 'u' => some .unicode
  | 'R' => some .carriageReturn
  | 'x' => some .verbose
  | _ => none

/-- Switches of flags up to a colon or a closing parenthesis, which is left in place. A flag may be
listed once, at most one minus sign is allowed, and a flag must follow it. -/
def flagChanges (negated dangling : Bool) (acc : FlagChanges) :
    List Char → Except Fault (FlagChanges × List Char)
  | [] => fail
  | c :: rest =>
    if c = ':' ∨ c = ')' then if dangling then fail else .ok (acc.reverse, c :: rest)
    else if c = '-' then if negated then fail else flagChanges true true acc rest
    else
      match flagOfLetter? c with
      | none => fail
      | some flag =>
        if acc.any (·.1 == flag) then fail
        else flagChanges negated false ((flag, !negated) :: acc) rest

/-- Whether a character may stand in the name of a group. -/
def isNameChar (first : Bool) (c : Char) : Bool :=
  c == '_' || Unicode.alphabetic c.toNat
    || (!first && (Unicode.numeric c.toNat || c == '.' || c == '[' || c == ']'))

/-- The name of a group, up to its closing angle bracket. -/
def groupName (acc : List Char) : List Char → Except Fault (String × List Char)
  | [] => fail
  | '>' :: rest => if acc.isEmpty then fail else .ok (String.ofList acc.reverse, rest)
  | c :: rest => if isNameChar acc.isEmpty c then groupName (c :: acc) rest else fail

end ClaExemption.Regex.Scan
