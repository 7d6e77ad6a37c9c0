import ClaExemption.Rule.Basic
import ClaExemption.Session

/-!
# Matching actors against rules

The matcher compiles the expressions of a rule as it reaches them, from left to
right, and stops as soon as the answer is known.
-/

namespace ClaExemption

/-- Whether the first test and then the second succeed. -/
def SessionM.both (first second : SessionM Bool) : SessionM Bool := do
  if ← first then second else return false

/-- Whether some item passes a test, trying them in order. -/
def SessionM.anyOf {α : Type} (test : α → SessionM Bool) : List α → SessionM Bool
  | [] => return false
  | item :: items => do if ← test item then return true else SessionM.anyOf test items

/-- Matches a value against a pattern. -/
def Pattern.matchValue (value : String) : Pattern → SessionM Bool
  | .any => return true
  | .empty => return value = ""
  | .regex source => if value = "" then return false else SessionM.search source value
  | .exact literal => return value ≠ "" && literal = value

/-- Matches a value against a pattern of the kind that wants a value to be there for `*`. -/
def Pattern.matchPresent (value : String) : Pattern → SessionM Bool
  | .any => return value ≠ ""
  | p => p.matchValue value

/-- Matches an actor against one alternative. -/
def Triple.matchActor (t : Triple) (a : Actor) : SessionM Bool :=
  SessionM.both (t.login.matchValue a.login)
    (SessionM.both (t.email.matchValue a.email) (t.name.matchValue a.name))

/-- Matches an actor against a rule. -/
def Rule.matchActor (a : Actor) : Rule → SessionM Bool
  | .extended alternatives => SessionM.anyOf (·.matchActor a) alternatives
  | .simple login email =>
    if a.login = "" then return false
    else
      SessionM.both (login.matchPresent a.login)
        (match email with
        | none => return true
        | some p => p.matchPresent a.email)

end ClaExemption
