import ClaExemption.Audit
import ClaExemption.Log
import ClaExemption.Pattern.Cache

/-!
# What a check leaves behind

A check compiles patterns through a cache, reports exemptions to a sink and
logs. `Session` holds the three, and `SessionM` is a computation on them.
-/

namespace ClaExemption

/-- The cache, the sink, and what has been logged. -/
structure Session where
  cache : PatternCache
  sink : Sink
  log : Log := []

/-- A computation that may compile patterns, report events and log. -/
abbrev SessionM := StateM Session

namespace SessionM

/-- Adds an entry to the log. -/
def logEntry (entry : Entry) : SessionM Unit :=
  modify fun s => { s with log := s.log ++ [entry] }

/-- Compiles an expression through the cache. -/
def compile (source : String) : SessionM (Except PatternProblem Regex) := fun s =>
  let (outcome, cache) := s.cache.compile source
  (outcome, { s with cache })

/-- Forgets the compiled patterns. -/
def clearCache : SessionM Unit :=
  modify fun s => { s with cache := s.cache.clear }

/-- The entry of an event in the audit log. -/
def auditEntry (event : AuditEvent) : Entry :=
  { level := .info
    message := event.data.summary
    details := [("event_type", .text event.kind.name), ("project_id", .text event.projectId),
      ("repo", .text event.data.repo)]
    audit := true }

/-- Reports an event. -/
def report (event : AuditEvent) : SessionM Unit := do
  let s ← get
  match s.sink with
  | .recording _ => set { s with sink := s.sink.push event }
  | .logging => logEntry (auditEntry event)

/-- Searches a text for an expression; one that does not compile is logged and found nowhere. -/
def search (source value : String) : SessionM Bool := do
  match ← compile source with
  | .ok r => return r.isMatch value
  | .error problem =>
    logEntry
      { level := .debug
        message := "bad regexp in skip_cla pattern"
        details := [("pattern", .text source), ("value", .text value),
          ("error", .text problem.message)] }
    return false

end SessionM

end ClaExemption
