/-!
# Audit events

Every exemption is reported as an event to a sink, which keeps the events or
writes them to the audit log.
-/

namespace ClaExemption

/-- The kinds of audit events. -/
inductive EventKind where
  /-- An actor needed no signature because of an exemption. -/
  | bypass
deriving DecidableEq, Repr

/-- The name of a kind. -/
def EventKind.name : EventKind → String
  | .bypass => "BypassCLA"

/-- What is reported of an exemption. -/
structure Bypass where
  /-- The full name of the repository. -/
  repo : String
  /-- The value of the rule that applied. -/
  config : String
  /-- The description of the actor. -/
  actor : String
deriving DecidableEq, Repr, Inhabited

/-- The sentence that reports an exemption. -/
def Bypass.summary (b : Bypass) : String :=
  "CLA check bypassed for repository " ++ b.repo ++ " and actor " ++ b.actor
    ++ " by skip_cla config: " ++ b.config

/-- An audit event. -/
structure AuditEvent where
  kind : EventKind := .bypass
  data : Bypass
  projectId : String
  /-- In seconds since the start of 1970. -/
  timestamp : UInt64
deriving DecidableEq, Repr

/-- The event of an exemption. -/
def AuditEvent.ofBypass (data : Bypass) (projectId : String) (timestamp : UInt64) : AuditEvent :=
  { data, projectId, timestamp }

/-- Where audit events go. -/
inductive Sink where
  /-- They are kept, the oldest first. -/
  | recording (events : List AuditEvent)
  /-- They are written to the audit log. -/
  | logging
deriving DecidableEq, Repr

namespace Sink

/-- The events kept. -/
def events : Sink → List AuditEvent
  | .recording events => events
  | .logging => []

/-- Keeps one more event. -/
def push (s : Sink) (event : AuditEvent) : Sink :=
  match s with
  | .recording events => .recording (events ++ [event])
  | .logging => .logging

/-- Forgets the events kept. -/
def drain : Sink → Sink
  | .recording _ => .recording []
  | .logging => .logging

end Sink

end ClaExemption
