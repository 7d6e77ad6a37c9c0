import ClaExemption.Proofs.Http.RequestId
import ClaExemption.Proofs.Service.Footprint

/-!
# What a call for a check comes to

The body of a call is a request (`Call.Carries`) or it is rejected, for whatever
reason. A request is decided, or it names no organization, or one without a record.
`Outcome` has a constructor for each of these, with its reply, and
`exists_outcome` says that there are no others. So the status tells which it is, and
every reply but a decision is an error object that has reported nothing
(`check_replies_classified`).
-/

namespace ClaExemption.Http

open Json

variable {s after : Service} {m : Moment} {arrival : Arrival} {c : Call} {reply : Reply}
  {id name name' : String} {r r' : Request}

/-! ## Bodies -/

/-- The body of a call is a request: the call says that it is JSON, it arrives whole, it is not too
long, and it decodes. -/
structure Call.Carries (c : Call) (r : Request) : Prop where
  json : c.saysJson = true
  short : c.body.bytes.length ≤ bodyLimit
  whole : c.body.broken = none
  decoded : decodeText Wire.decodeRequest (glyphsOfBytes c.body.bytes) = .ok r

theorem Call.request_eq_ok_iff : c.request = .ok r ↔ c.Carries r := by
  constructor
  · intro accepted
    unfold request at accepted
    split at accepted
    · cases accepted
    · next json =>
      split at accepted
      · cases accepted
      · next short =>
        split at accepted
        · cases accepted
        · next whole =>
          split at accepted
          · next decoded =>
            cases accepted
            exact ⟨by simpa using json, Nat.not_lt.1 short, whole, decoded⟩
          · cases accepted
          · cases accepted
  · rintro ⟨json, short, whole, decoded⟩
    rw [request, json, if_neg (by decide), if_neg (Nat.not_lt.2 short), whole]
    dsimp only
    rw [decoded]

theorem Call.Carries.unique (h : c.Carries r) (h' : c.Carries r') : r = r' := by
  rw [← request_eq_ok_iff] at h h'
  exact Except.ok.inj (h.symm.trans h')

/-- The body of a call is a request that names an organization. -/
def Call.Names (c : Call) (name : String) : Prop :=
  ∃ r, c.Carries r ∧ r.organizationName = some name

theorem Call.Names.unique (h : c.Names name) (h' : c.Names name') : name = name' := by
  obtain ⟨r, carries, named⟩ := h
  obtain ⟨r', carries', named'⟩ := h'
  rw [carries.unique carries'] at named
  exact Option.some.inj (named.symm.trans named')

theorem Call.Carries.not_names (h : c.Carries r) (unnamed : r.organizationName = none) :
    ¬ c.Names name := by
  rintro ⟨r', carries, named⟩
  rw [← h.unique carries, unnamed] at named
  cases named

/-! ## Replies -/

/-- What a call for a check comes to under an id: a reply, and the service after it. -/
inductive Outcome (s : Service) (m : Moment) (id : String) (c : Call) : Reply → Service → Prop
  /-- The check ends with a decision. -/
  | decided {r : Request} {name : String} {d : Decision} {after : Service} : c.Carries r →
    r.organizationName = some name → ¬ s.registry.Lacks name →
    s.check m id r = some (.ok d, after) →
    Outcome s m id c (.json 200 id (Wire.encodeDecision d)) after
  /-- There is no record of the organization. -/
  | unknown {r : Request} {name : String} {after : Service} : c.Carries r →
    r.organizationName = some name → s.registry.Lacks name → s.session.Unused after.session →
    Outcome s m id c (.error 404 id (CheckError.unknownOrganization name).message) after
  /-- The request names no organization. -/
  | unnamed {r : Request} {after : Service} : c.Carries r → r.organizationName = none →
    s.session.Unused after.session →
    Outcome s m id c (.error 400 id (CheckError.noOrganization r.repository).message) after
  /-- The body is no request. -/
  | rejected {rejection : Rejection} {after : Service} : (∀ r, ¬ c.Carries r) →
    s.session.Unused after.session →
    Outcome s m id c (.error 400 id (invalidRequest rejection.message)) after

/-- A call for a check comes to one of these, as long as the clock reaches. -/
theorem exists_outcome (asks : c.Asks)
    (fits : arrival.moment.started + s.timings.lifetime < clockLimit) :
    ∃ reply after, answer s arrival c = some (reply, after) ∧
      Outcome s arrival.moment (c.idAt arrival) c reply after := by
  rw [answer_of_asks asks, answerResolve]
  -- What the body is comes first, then what the check says of it.
  cases accepted : c.request with
  | error rejection =>
    have none : ∀ r, ¬ c.Carries r := fun r carries => by
      rw [Call.request_eq_ok_iff.2 carries] at accepted
      cases accepted
    exact ⟨_, _, rfl, .rejected none (Service.unused_log ⟨rfl, rfl, rfl⟩ rfl)⟩
  | ok r =>
    have carries : c.Carries r := Call.request_eq_ok_iff.1 accepted
    obtain ⟨result, after, checked, e, -, unused⟩ := s.exists_check fits (c.idAt arrival) r
    have ends : s.Ends r result := e ▸ s.outcome_ends arrival.moment.now r
    dsimp only
    rw [checked]
    cases ends with
    | unnamed unnamed =>
      exact ⟨_, _, rfl, .unnamed carries unnamed (Service.unused_log (unused _ rfl) rfl)⟩
    | unknown named lacks =>
      exact ⟨_, _, rfl, .unknown carries named lacks (Service.unused_log (unused _ rfl) rfl)⟩
    | decided d named held => exact ⟨_, _, rfl, .decided carries named held checked⟩

namespace Outcome

/-- Success is for requests that name an organization with a record. -/
theorem status_eq_ok_iff (h : Outcome s m id c reply after) :
    reply.status = 200 ↔ ∃ name, c.Names name ∧ ¬ s.registry.Lacks name := by
  cases h with
  | decided carries named held => exact iff_of_true rfl ⟨_, ⟨_, carries, named⟩, held⟩
  | unknown carries named lacks =>
    refine iff_of_false (by simp) fun ⟨_, names, held⟩ => held ?_
    rwa [names.unique ⟨_, carries, named⟩]
  | unnamed carries unnamed =>
    exact iff_of_false (by simp) fun ⟨_, names, _⟩ => carries.not_names unnamed names
  | rejected none => exact iff_of_false (by simp) fun ⟨_, ⟨r, carries, _⟩, _⟩ => none r carries

/-- What is not found is the record of the organization that a request names. -/
theorem status_eq_notFound_iff (h : Outcome s m id c reply after) :
    reply.status = 404 ↔ ∃ name, c.Names name ∧ s.registry.Lacks name := by
  cases h with
  | decided carries named held =>
    refine iff_of_false (by simp) fun ⟨_, names, lacks⟩ => held ?_
    rwa [← names.unique ⟨_, carries, named⟩]
  | unknown carries named lacks => exact iff_of_true rfl ⟨_, ⟨_, carries, named⟩, lacks⟩
  | unnamed carries unnamed =>
    exact iff_of_false (by simp) fun ⟨_, names, _⟩ => carries.not_names unnamed names
  | rejected none => exact iff_of_false (by simp) fun ⟨_, ⟨r, carries, _⟩, _⟩ => none r carries

/-- A bad call is one without a request that names an organization. -/
theorem status_eq_bad_iff (h : Outcome s m id c reply after) :
    reply.status = 400 ↔ ∀ name, ¬ c.Names name := by
  cases h with
  | decided carries named | unknown carries named =>
    exact iff_of_false (by simp) fun none => none _ ⟨_, carries, named⟩
  | unnamed carries unnamed => exact iff_of_true rfl fun _ => carries.not_names unnamed
  | rejected none => exact iff_of_true rfl fun _ ⟨r, carries, _⟩ => none r carries

end Outcome

/-- A reply tells of an error by an object with its status, a message and the id in its header. -/
structure Reply.TellsError (reply : Reply) (id : String) : Prop where
  header : reply.headers.filter (·.1 == "x-request-id") = [("x-request-id", id)]
  contentType : reply.header? "content-type" = some "application/json"
  body : ∃ message, reply.content = .json (.object
    [("code", .int reply.status), ("message", .text message), ("request_id", .text id)])

theorem Reply.tellsError (status : Nat) (id message : String) :
    (Reply.error status id message).TellsError id :=
  ⟨Reply.filter_setHeader _ _ _, rfl, message, rfl⟩

/-- A call for a check is answered with 200 exactly if its body is a request that names an
organization with a record, with 404 exactly if there is no such record, and with 400 in every other
case. The body of the first is the decision of the check; the others are error objects under the id
of the call, and have neither compiled nor reported anything. -/
theorem check_replies_classified (asks : c.Asks)
    (fits : arrival.moment.started + s.timings.lifetime < clockLimit) :
    ∃ reply after, answer s arrival c = some (reply, after) ∧
      (reply.status = 200 ↔ ∃ name, c.Names name ∧ ¬ s.registry.Lacks name) ∧
      (reply.status = 404 ↔ ∃ name, c.Names name ∧ s.registry.Lacks name) ∧
      (reply.status = 400 ↔ ∀ name, ¬ c.Names name) ∧
      (reply.status = 200 ∨ reply.status = 404 ∨ reply.status = 400) ∧
      (reply.status = 200 → ∃ r d, c.Carries r ∧
        s.check arrival.moment (c.idAt arrival) r = some (.ok d, after) ∧
        reply = .json 200 (c.idAt arrival) (Wire.encodeDecision d)) ∧
      (reply.status ≠ 200 →
        reply.TellsError (c.idAt arrival) ∧ s.session.Unused after.session) := by
  obtain ⟨reply, after, answered, outcome⟩ := exists_outcome asks fits
  refine ⟨reply, after, answered, outcome.status_eq_ok_iff, outcome.status_eq_notFound_iff,
    outcome.status_eq_bad_iff, ?_, ?_, ?_⟩
  · cases outcome with
    | decided => exact .inl rfl
    | unknown => exact .inr (.inl rfl)
    | unnamed | rejected => exact .inr (.inr rfl)
  · cases outcome with
    | decided carries named held checked => exact fun _ => ⟨_, _, carries, checked, rfl⟩
    | unknown | unnamed | rejected => exact fun ok => absurd ok (by simp)
  · cases outcome with
    | decided => exact fun failed => absurd rfl failed
    | unknown _ _ _ unused | unnamed _ _ unused | rejected _ unused =>
      exact fun _ => ⟨Reply.tellsError _ _ _, unused⟩

/-- A call with a request for an organization without a record. -/
def strayCall : Call where
  method := "POST"
  target := "/v4/allowlist/resolve"
  headers := [("Content-Type", "application/json; charset=utf-8"), ("X-Request-ID", "r 9")]
  body := Text.Utf8.encode "\x7b\"repository\":\"nobody/x\",\"actors\":[]\x7d"

theorem check_replies_classified_stray :
    let s := Service.quiet
    let arrival : Arrival := ⟨1, ⟨5, 6, 0⟩⟩
    strayCall.Asks ∧ arrival.moment.started + s.timings.lifetime < clockLimit ∧
    strayCall.Names "nobody" ∧ s.registry.Lacks "nobody" ∧
    ∃ reply after, answer s arrival strayCall = some (reply, after) ∧ reply.status = 404 ∧
      reply.TellsError "r 9" ∧ s.session.Unused after.session := by
  intro s arrival
  have asks : strayCall.Asks := ⟨rfl, by decide +kernel⟩
  have fits : arrival.moment.started + s.timings.lifetime < clockLimit := by
    have lifetime : s.timings.lifetime = 300 * nanosPerSecond := Service.lifetime_foldl _ _
    rw [lifetime]
    decide
  have decoded : decodeText Wire.decodeRequest (glyphsOfBytes strayCall.body.bytes) =
      .ok { repository := "nobody/x" } := by with_unfolding_all rfl
  have names : strayCall.Names "nobody" :=
    ⟨{ repository := "nobody/x" }, ⟨by decide +kernel, by decide +kernel, rfl, decoded⟩, by decide⟩
  have lacks : s.registry.Lacks "nobody" := by
    -- The names differ in length, whatever the lower case of their letters is.
    have apart : Text.lowercase "nobody" ≠ Text.lowercase "Acme" := fun e =>
      absurd (congrArg List.length (String.ofList_injective e)) (by decide +kernel)
    exact Registry.get?_eq_none_iff.1 ((Registry.get?_upsert _ Service.acme _).trans (if_neg apart))
  have id : strayCall.idAt arrival = "r 9" := by decide +kernel
  obtain ⟨reply, after, answered, -, missing, -, -, -, failed⟩ :=
    check_replies_classified asks fits
  have status : reply.status = 404 := missing.2 ⟨"nobody", names, lacks⟩
  have told := failed (by rw [status]; decide)
  rw [id] at told
  exact ⟨asks, fits, names, lacks, reply, after, answered, status, told⟩

end ClaExemption.Http
