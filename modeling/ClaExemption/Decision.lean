import ClaExemption.Actor
import ClaExemption.Audit
import ClaExemption.RuleMap

/-!
# Organizations and decisions

What the program knows of an organization, and what it decides about the actors
of a commit.
-/

namespace ClaExemption

/-- The record of an organization. -/
structure Organization where
  name : String
  /-- Its rules, if it has any. -/
  rules : Option RuleMap := none
deriving DecidableEq

/-- Which kind of key an entry was found under. -/
inductive RuleSource where
  | exact
  | regex
  | wildcard
deriving DecidableEq, Repr

/-- The name of a kind of key. -/
def RuleSource.name : RuleSource → String
  | .exact => "exact"
  | .regex => "regex"
  | .wildcard => "wildcard"

/-- The entry of a rule map that applies to a repository. -/
structure Selected where
  key : String
  value : String
  source : RuleSource
deriving DecidableEq, Repr

/-- The outcome of a check. -/
structure Decision where
  /-- The actors that still have to sign, in their order. -/
  stillMissing : List Actor := []
  /-- The exempt actors, in their order, marked as authorized. -/
  allowlisted : List Actor := []
  /-- The entry that applied, if one did. -/
  resolved : Option Selected := none
  /-- One event for each exempt actor. -/
  events : List AuditEvent := []
deriving DecidableEq, Repr

namespace Decision

/-- The decision that exempts nobody. -/
def passthrough (actors : List Actor) : Decision := { stillMissing := actors }

/-- The two lists of actors. -/
def parts (d : Decision) : List Actor × List Actor := (d.stillMissing, d.allowlisted)

end Decision

end ClaExemption
