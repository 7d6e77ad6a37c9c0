import ClaExemption.Proofs.Service.History

/-!
# What a check sends to the sink

`Session.Sent` says which events a session has sent since an earlier one: those
that its sink has kept, or written to the audit log. A check sends the events of
its decision and nothing else (`Service.check_sent`).
-/

namespace ClaExemption

/-- The events that were sent to the sink between two sessions: it has kept them, or they are in the
audit log. -/
structure Session.Sent (s s' : Session) (events : List AuditEvent) : Prop where
  sink : s'.sink = events.foldl Sink.push s.sink
  audit : s'.audited = s.audited ++ s.sink.entries events

theorem Session.Sent.refl (s : Session) : s.Sent s [] :=
  ⟨rfl, (Sink.append_entries_nil _ _).symm⟩

/-- What a computation reports is what it sends. -/
theorem SessionM.Yields.sent {α : Type} {x : SessionM α} {a : α} {events : List AuditEvent}
    (hx : x.Yields a events) {s : Session} (h : s.cache.Reachable) : s.Sent (x s).2 events :=
  ⟨hx.sink h, hx.audit h⟩

namespace Service

variable {s t : Service} {events : List AuditEvent}

/-- Entries that are not for the audit log send nothing. -/
theorem sent_log (h : s.session.Sent t.session events) {entry : Entry}
    (plain : entry.audit = false) : s.session.Sent (t.log entry).session events :=
  ⟨h.sink, (filter_audit_concat t.session.log plain).trans h.audit⟩

/-- The events of a decision, if a check comes to one. -/
def reported : Except CheckError Decision → List AuditEvent
  | .ok d => d.events
  | .error _ => []

theorem outcome_sent (reachable : s.session.cache.Reachable) (now : UInt64) (r : Request) :
    s.session.Sent (s.outcome now r).2 (reported (s.outcome now r).1) := by
  unfold outcome
  cases s.organizationOf r with
  | error e => exact .refl _
  | ok org =>
    have yields := yields_resolve ⟨r.repository, r.projectId, now⟩ s.grammar org.rules r.actors
    show s.session.Sent _ (resolve _ _ _ _ s.session).1.events
    rw [yields.value reachable]
    exact yields.sent reachable

/-- A check whose timing the clock can show answers, and sends the events of its decision. -/
theorem check_sent {m : Moment} (reachable : s.session.cache.Reachable)
    (fits : m.started + s.timings.lifetime < clockLimit) (requestId : String) (r : Request) :
    ∃ answer after, s.check m requestId r = some (answer, after) ∧
      s.session.Sent after.session (reported answer) := by
  have sent := outcome_sent reachable m.now r
  unfold check Timings.start?
  rw [if_pos fits]
  refine ⟨_, _, rfl, ?_⟩
  split
  · exact sent_log (t := { s with session := (s.outcome m.now r).2 }) sent rfl
  · exact sent

end Service

end ClaExemption
