import ClaExemption.Registry
import ClaExemption.Request
import ClaExemption.Resolve
import ClaExemption.Timings

/-!
# The service

`Service` holds what outlives a request: the registry, the requests in flight,
and the session of cache, sink and log. `Service.check` answers one request, and
`Service.outcome` is its answer without the bookkeeping of times.
-/

namespace ClaExemption

/-- Why a check has no decision. -/
inductive CheckError where
  /-- There is no record of the organization. -/
  | unknownOrganization (name : String)
  /-- The request names no organization. -/
  | noOrganization (repository : String)
deriving DecidableEq, Repr

/-- The beginning of every message about a request that makes no sense. -/
def invalidRequest (reason : String) : String := "Invalid request: " ++ reason

/-- The description of an error. -/
def CheckError.message : CheckError → String
  | .unknownOrganization name => "Organization store error: Organization not found: " ++ name
  | .noOrganization repository =>
    invalidRequest ("cannot determine organization for repository '" ++ repository ++ "'")

/-- The times around a check: on the clock that timings use, when it starts and when it has
finished, and in seconds since the start of 1970, when it happens. -/
structure Moment where
  started : Instant
  finished : Instant
  now : UInt64
deriving Repr

/-- A running service. -/
structure Service where
  name : String
  version : String
  grammar : Grammar
  registry : Registry
  timings : Timings
  session : Session

namespace Service

/-- Starts a service, which logs how many organizations it knows. -/
def start (name version : String) (grammar : Grammar) (registry : Registry) (timings : Timings)
    (session : Session) : Service :=
  let entry : Entry :=
    { level := .info
      message := "Initialized allowlist service"
      details := [("grammar", .text grammar.name), ("organizations", .number registry.size)] }
  { name, version, grammar, registry, timings,
    session := { session with log := session.log ++ [entry] } }

/-- Adds an entry to the log. -/
def log (s : Service) (entry : Entry) : Service :=
  { s with session := { s.session with log := s.session.log ++ [entry] } }

/-- The record of an organization. -/
def organization (s : Service) (name : String) : Except CheckError Organization :=
  match s.registry.get? name with
  | some org => .ok org
  | none => .error (.unknownOrganization name)

/-- The names of the organizations, in ascending order. -/
def organizations (s : Service) : List String := s.registry.names

/-- The record of the organization that a request is about. -/
def organizationOf (s : Service) (r : Request) : Except CheckError Organization :=
  match r.organizationName with
  | some name => s.organization name
  | none => .error (.noOrganization r.repository)

/-- Decides about the actors of a request. -/
def outcome (s : Service) (now : UInt64) (r : Request) :
    Except CheckError Decision × Session :=
  match s.organizationOf r with
  | .error e => (.error e, s.session)
  | .ok org =>
    let (decision, session) :=
      resolveFor s.grammar ⟨r.repository, r.projectId, now⟩ org r.actors s.session
    (.ok decision, session)

/-- The method under which checks are timed. -/
def checkMethod : String := "check"

/-- The entry for a check that has finished. -/
def finishedEntry (success : Bool) : Entry :=
  { level := .debug
    message := "allowlist check finished"
    details := [("success", .flag success)] }

/-- Answers a request and keeps the times of it; none if its timing would expire later than the
clock can show. -/
def check (s : Service) (m : Moment) (requestId : String) (r : Request) :
    Option (Except CheckError Decision × Service) := do
  let timings ← s.timings.start? requestId checkMethod m.started
  let (result, session) := s.outcome m.now r
  let (timing, timings) := timings.clear requestId m.finished
  let after := { s with timings, session }
  return (result, if timing.isSome then after.log (finishedEntry result.isOk) else after)

end Service

end ClaExemption
