import ClaExemption.Actor
import ClaExemption.Pattern.Basic
import ClaExemption.Text.Blank

/-!
# Exemption rules

A rule is the value of an entry of a rule map. In the extended grammar it is a
list of alternatives, each with a pattern for the login, the email and the name
of an actor; in the simple grammar it has a login and perhaps an email.
`Rule.parse` reads a rule and `Rule.admits` says which actors it exempts.
-/

namespace ClaExemption

/-- The two ways to read the value of an entry. -/
inductive Grammar where
  | extended
  | simple
deriving DecidableEq, Repr, Inhabited

/-- The name of a grammar. -/
def Grammar.name : Grammar → String
  | .extended => "extended"
  | .simple => "simple"

/-- The patterns of one alternative. -/
structure Triple where
  login : Pattern
  email : Pattern
  name : Pattern
deriving DecidableEq, Repr

namespace Triple

/-- Reads up to three patterns between semicolons; a missing one is the empty pattern, and what
follows the third is ignored. -/
def parse (s : String) : Triple :=
  match (Text.splitAt ';' s.toList).map fun part => Pattern.parse (String.ofList part) with
  | [] => ⟨.empty, .empty, .empty⟩
  | [login] => ⟨login, .empty, .empty⟩
  | [login, email] => ⟨login, email, .empty⟩
  | login :: email :: name :: _ => ⟨login, email, name⟩

/-- The alternative as it is written, with all its parts. -/
def text (t : Triple) : String := t.login.text ++ ";" ++ t.email.text ++ ";" ++ t.name.text

/-- Whether an actor fits all three patterns. -/
def admits (t : Triple) (a : Actor) : Bool :=
  t.login.fits a.login && t.email.fits a.email && t.name.fits a.name

end Triple

/-- A rule. -/
inductive Rule where
  | extended (alternatives : List Triple)
  /-- A login, and an email if the value has a second part. -/
  | simple (login : Pattern) (email : Option Pattern)
deriving DecidableEq, Repr

/-- The alternatives of a value: the trimmed parts between pairs of bars if it is enclosed in square
brackets, else the trimmed value alone. -/
def splitAlternatives (value : String) : List String :=
  let chars := Text.trimChars value.toList
  match Text.between? '[' ']' chars with
  | some inner => (Text.splitBars inner).map fun part => String.ofList (Text.trimChars part)
  | none => [String.ofList chars]

namespace Rule

/-- Reads the value of an entry. -/
def parse (grammar : Grammar) (value : String) : Rule :=
  match grammar with
  | .extended => .extended ((splitAlternatives value).map Triple.parse)
  | .simple =>
    match (Text.splitAt ';' (Text.trimChars value.toList)).map fun part =>
      Pattern.parse (String.ofList part) with
    | [] => .simple .empty none
    | [login] => .simple login none
    | login :: email :: _ => .simple login (some email)

/-- The grammar that a rule is of. -/
def grammar : Rule → Grammar
  | .extended _ => .extended
  | .simple _ _ => .simple

/-- The rule as a message shows it. -/
def text : Rule → String
  | .extended alternatives => "[" ++ " || ".intercalate (alternatives.map Triple.text) ++ "]"
  | .simple login none => login.text
  | .simple login (some email) => login.text ++ ";" ++ email.text

/-- Whether a rule exempts an actor. In the simple grammar an actor without a login never is. -/
def admits (a : Actor) : Rule → Bool
  | .extended alternatives => alternatives.any (·.admits a)
  | .simple login email =>
    a.login ≠ "" && login.fitsPresent a.login && email.all (·.fitsPresent a.email)

end Rule

end ClaExemption
