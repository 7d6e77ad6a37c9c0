/-!
# Actors

The people and bots that a commit is attributed to. A missing login, email or
name reads as the empty text, and `Actor.describe` tells missing members apart.
-/

namespace ClaExemption

/-- What the platform knows about the author of a commit. -/
structure Author where
  id : Option Int64 := none
  login : Option String := none
  email : Option String := none
  name : Option String := none
deriving DecidableEq, Repr, Inhabited

/-- One actor of a commit. -/
structure Actor where
  /-- The commit that the actor was collected from. -/
  sha : String := ""
  /-- The author, unless the platform could not tell. -/
  author : Option Author := none
  /-- Whether the actor belongs to a company that has signed. -/
  affiliated : Bool := false
  /-- Whether the actor is covered, by a signature or by an exemption. -/
  authorized : Bool := false
deriving DecidableEq, Repr, Inhabited

namespace Actor

/-- An actor with the given identity. -/
def ofIdentity (login email name : Option String) : Actor :=
  { author := some { login, email, name } }

/-- Sets the id of the author, who is made up if missing. -/
def withId (a : Actor) (id : Int64) : Actor :=
  { a with author := some { a.author.getD {} with id := some id } }

/-- The login, empty if missing. -/
def login (a : Actor) : String := (a.author.bind (·.login)).getD ""

/-- The email, empty if missing. -/
def email (a : Actor) : String := (a.author.bind (·.email)).getD ""

/-- The name, empty if missing. -/
def name (a : Actor) : String := (a.author.bind (·.name)).getD ""

/-- What stands for a missing member. -/
def missing : String := "(null)"

/-- The description of an actor in logs and audit events. -/
def describe (a : Actor) : String :=
  let id := ((a.author.bind (·.id)).map fun id => toString id.toInt).getD missing
  let login := (a.author.bind (·.login)).getD missing
  let name := (a.author.bind (·.name)).getD missing
  let email := (a.author.bind (·.email)).getD missing
  "id='" ++ id ++ "',login='" ++ login ++ "',username='" ++ name ++ "',email='" ++ email ++ "'"

end Actor

end ClaExemption
