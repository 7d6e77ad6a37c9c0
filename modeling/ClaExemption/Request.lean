import ClaExemption.Actor
import ClaExemption.Text.Split

/-!
# Requests

What a client asks: who of the actors of a commit still has to sign. The
organization is given, or else it is the part of the repository's full name in
front of the first slash (`Request.organizationName`).
-/

namespace ClaExemption

/-- A request for a check. -/
structure Request where
  /-- The organization, unless its name is to be taken from the repository. -/
  organization : Option String := none
  /-- The full name of the repository. -/
  repository : String
  /-- The project that audit events are filed under. -/
  projectId : String := ""
  /-- The actors without a signature; missing ones are passed over. -/
  actors : List (Option Actor) := []
deriving DecidableEq, Repr

/-- A text, unless it is empty. -/
def nonEmpty? (s : String) : Option String := if s = "" then none else some s

/-- What stands in front of the first slash of a full name, unless that is nothing. -/
def ownerName? (full : String) : Option String :=
  (Text.cutFirst '/' full.toList).bind fun (owner, _) => nonEmpty? (String.ofList owner)

/-- The organization whose rules apply: the one given, unless it is empty, else the owner of the
repository. -/
def Request.organizationName (r : Request) : Option String :=
  (r.organization.bind nonEmpty?).or (ownerName? r.repository)

end ClaExemption
