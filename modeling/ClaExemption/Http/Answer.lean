import ClaExemption.Arrival
import ClaExemption.Http.MediaType
import ClaExemption.Http.Percent
import ClaExemption.Http.Route
import ClaExemption.Wire.Decode
import ClaExemption.Wire.Encode

/-!
# Answering over HTTP

`Http.answer` answers one call. A call has an id: the one that it brings, or else a
fresh one. The reply of its route is made with that id, and carries it as a header
(`Reply.identify`). Errors of the service and bodies that are no requests are
answered by an object with the status, a message and the id.
-/

namespace ClaExemption.Http

open Json

/-- The body of a call, as far as it arrives. -/
structure Body where
  bytes : List UInt8
  /-- Why nothing more of it arrives, if it breaks off. -/
  broken : Option String := none

instance : Coe (List UInt8) Body := ⟨fun bytes => { bytes }⟩

/-- A call. -/
structure Call where
  method : String
  target : String
  /-- The headers in their order. A byte of a value beyond the basic alphabet shows as a character
  beyond it. -/
  headers : List (String × String) := []
  body : Body := { bytes := [] }

/-- The body of a reply. -/
inductive Content where
  | empty
  | json (value : Value)
  | text (s : String)

/-- A reply. -/
structure Reply where
  status : Nat
  /-- The headers, whose names are in lower case. -/
  headers : List (String × String) := []
  content : Content := .empty

/-! ## Headers -/

/-- The header with the id of a call, and of its reply. -/
def requestIdHeader : String := "x-request-id"

/-- The header with the media type of a body. -/
def contentTypeHeader : String := "content-type"

/-- The header of a reply with the methods that a route answers, if the call came with another
one. -/
def allowHeader : String := "allow"

/-- The first value of a header; letter case is of no account in names. -/
def Call.header? (c : Call) (name : String) : Option String :=
  (c.headers.find? fun h => h.1.toLower == name).map (·.2)

/-- Whether the value of a header can be read as text: visible characters of the basic alphabet,
spaces and tabs only. -/
def isReadable (value : String) : Bool :=
  value.toList.all fun c => (32 ≤ c.toNat && c.toNat < 127) || c == '\t'

/-- The value of a header that can be read as text. -/
def Call.readableHeader? (c : Call) (name : String) : Option String :=
  (c.header? name).filter isReadable

/-- The value of a header of a reply. -/
def Reply.header? (r : Reply) (name : String) : Option String :=
  (r.headers.find? (·.1 == name)).map (·.2)

/-- Whether a text can be the value of a header: no control characters but tabs. -/
def isSendable (value : String) : Bool :=
  value.toList.all fun c => (32 ≤ c.toNat && c.toNat != 127) || c == '\t'

/-- The reply with a header, which takes the place of those of its name. -/
def Reply.setHeader (r : Reply) (name value : String) : Reply :=
  { r with headers := (name, value) :: r.headers.filter (·.1 != name) }

/-! ## Calls -/

/-- The id of a call, if it brings one. -/
def Call.requestId? (c : Call) : Option String :=
  (c.readableHeader? requestIdHeader).bind nonEmpty?

/-- The most bytes that a body may have. -/
def bodyLimit : Nat := 2 * 1024 * 1024

/-- Why the body of a call is no request. -/
inductive Rejection where
  /-- The call does not say that it is JSON. -/
  | contentType
  | tooLong
  /-- It breaks off. -/
  | unreadable (cause : String)
  /-- It is not JSON. -/
  | malformed
  /-- It is JSON, but of another shape. -/
  | mistyped (failure : Failure)

/-- The description of a body that cannot be read to its end. -/
def unbuffered (cause : String) : String := "Failed to buffer the request body: " ++ cause

/-- The description of a rejection. -/
def Rejection.message : Rejection → String
  | .contentType => "Expected request with `Content-Type: application/json`"
  | .tooLong => unbuffered "length limit exceeded"
  | .unreadable cause => unbuffered cause
  | .malformed => "Failed to parse the request body as JSON"
  | .mistyped failure =>
    "Failed to deserialize the JSON body into the target type: " ++ failure.placedMessage

/-- Whether a call says that its body is JSON. -/
def Call.saysJson (c : Call) : Bool :=
  ((c.readableHeader? contentTypeHeader).bind MediaType.parse?).any (·.isJson)

/-- The request in the body of a call. -/
def Call.request (c : Call) : Except Rejection Request :=
  if !c.saysJson then .error .contentType
  else if bodyLimit < c.body.bytes.length then .error .tooLong
  else
    match c.body.broken with
    | some cause => .error (.unreadable cause)
    | none =>
      match decodeText Wire.decodeRequest (glyphsOfBytes c.body.bytes) with
      | .ok request => .ok request
      | .error (.fault _) => .error .malformed
      | .error failure => .error (.mistyped failure)

/-! ## Replies -/

/-- A reply with JSON. -/
def Reply.ofJson (status : Nat) (value : Value) : Reply :=
  { status, headers := [(contentTypeHeader, "application/json")], content := .json value }

/-- The object that tells of an error. -/
def errorObject (status : Nat) (requestId message : String) : Value :=
  .object [("code", .int status), ("message", .text message), ("request_id", .text requestId)]

/-- A reply that tells of an error. -/
def Reply.refusal (status : Nat) (requestId message : String) : Reply :=
  .ofJson status (errorObject status requestId message)

/-- A reply with nothing but its status. -/
def Reply.bare (status : Nat) : Reply := { status }

/-- The reply with its body left out. -/
def Reply.withoutBody (r : Reply) : Reply := { r with content := .empty }

/-- The reply with the id of its call for a header, if the id can be one. -/
def Reply.identify (r : Reply) (requestId : String) : Reply :=
  if isSendable requestId then r.setHeader requestIdHeader requestId else r

/-- The status of an error of the service. -/
def statusOf : CheckError → Nat
  | .unknownOrganization _ => 404
  | .noOrganization _ => 400

/-- The reply to an error of the service. -/
def Reply.ofError (requestId : String) (e : CheckError) : Reply :=
  .refusal (statusOf e) requestId e.message

/-! ## Routes -/

/-- The reply that tells how the service is. -/
def answerHealth (s : Service) : Reply :=
  .ofJson 200
    (.object
      [("status", .text "ok"), ("name", .text s.name), ("version", .text s.version),
       ("grammar", .text s.grammar.name)])

/-- The reply with the record of an organization. -/
def answerOrganization (s : Service) (id segment : String) : Reply :=
  match Percent.decode segment with
  | .error _ =>
    { status := 400
      headers := [(contentTypeHeader, "text/plain; charset=utf-8")]
      content := .text "Invalid URL: Invalid UTF-8 in `name`" }
  | .ok name =>
    match s.organization name with
    | .ok org => .ofJson 200 (Wire.encodeOrganization org)
    | .error e => .ofError id e

/-- The reply to a route that is read. -/
def answerRead (s : Service) (id : String) : Route → Reply
  | .health => answerHealth s
  | .organizations => .ofJson 200 (.array (s.organizations.map .text))
  | .organization segment => answerOrganization s id segment
  | .resolve => .bare 405

/-- Logs an error that a call is answered by. -/
def warn (s : Service) (event error : String) : Service :=
  s.log { level := .warn, message := event, details := [("error", .text error)] }

/-- The reply to a call for a check; none if the clock runs out. -/
def answerResolve (s : Service) (m : Moment) (id : String) (c : Call) : Option (Reply × Service) :=
  match c.request with
  | .error rejection =>
    some (.refusal 400 id (invalidRequest rejection.message),
      warn s "rejecting malformed request body" rejection.message)
  | .ok request => do
    match ← s.check m id request with
    | (.ok decision, s) => return (.ofJson 200 (Wire.encodeDecision decision), s)
    | (.error e, s) => return (.ofError id e, warn s "allowlist check failed" e.message)

/-- The reply to a call on a route. -/
def answerRoute (s : Service) (m : Moment) (id : String) (c : Call) (route : Route) :
    Option (Reply × Service) :=
  if !route.methods.contain c.method then
    some ({ Reply.bare 405 with headers := [(allowHeader, route.methods.allow)] }, s)
  else
    match route.methods with
    | .ask => answerResolve s m id c
    | .read =>
      let reply := answerRead s id route
      some (if c.method = "HEAD" then reply.withoutBody else reply, s)

/-- The reply to a call, which does not carry its id yet. -/
def answerTarget (s : Service) (m : Moment) (id : String) (c : Call) : Option (Reply × Service) :=
  match Route.ofTarget? c.target with
  | some route => answerRoute s m id c route
  | none => some (.bare 404, s)

/-- Answers a call; none if the clock runs out. -/
def answer (s : Service) (arrival : Arrival) (c : Call) : Option (Reply × Service) :=
  let id := c.requestId?.getD arrival.freshId
  (answerTarget s arrival.moment id c).map fun (reply, s) => (reply.identify id, s)

end ClaExemption.Http
