import ClaExemption.Text.Split

/-!
# Routes

The paths that the service answers and the methods that it answers there. What
follows a question mark plays no part.
-/

namespace ClaExemption.Http

/-- Something that can be asked for by a path. -/
inductive Route where
  | health
  | resolve
  | organizations
  /-- One organization, by the last segment of the path as it is written. -/
  | organization (segment : String)
deriving DecidableEq, Repr

/-- The methods that a route answers. -/
inductive Methods where
  /-- Reading: `GET`, and `HEAD` for a reply without its body. -/
  | read
  /-- Asking: `POST`. -/
  | ask
deriving DecidableEq, Repr

/-- The methods as a reply lists them. -/
def Methods.allow : Methods → String
  | .read => "GET,HEAD"
  | .ask => "POST"

/-- Whether a method is among them. -/
def Methods.contain (method : String) : Methods → Bool
  | .read => method = "GET" || method = "HEAD"
  | .ask => method = "POST"

namespace Route

/-- The path of a target. -/
def pathOf (target : String) : List Char := target.toList.takeWhile fun c => c != '?' && c != '#'

/-- The path of the list of organizations. -/
def organizationsPath : List Char := "/v4/allowlist/organizations".toList

/-- The route of a target. -/
def ofTarget? (target : String) : Option Route :=
  let path := pathOf target
  if path = "/health".toList then some .health
  else if path = "/v4/allowlist/resolve".toList then some .resolve
  else if path = organizationsPath then some .organizations
  else
    match Text.afterStart? (organizationsPath ++ ['/']) path with
    | some segment =>
      if segment.isEmpty || segment.contains '/' then none
      else some (.organization (String.ofList segment))
    | none => none

/-- The methods that a route answers. -/
def methods : Route → Methods
  | .resolve => .ask
  | _ => .read

end Route

end ClaExemption.Http
