import ClaExemption.Proofs.Http.RequestId
import ClaExemption.Proofs.Service.Sent

/-!
# One text over two transports

A text that is posted over HTTP (`Call.Posts`) and a line that holds it
(`OneLine`) are read alike (`request_of_posts`, `serve_line`). A rejected text
sends nothing, and a checked one sends what its check does (`answer_of_error`,
`answer_of_check` over HTTP, `answerText_of_error`, `answerText_of_check` for
lines). So twin services tell the same either way (`transports_agree`).
-/

namespace ClaExemption

open Json Text

variable {s t : Service} {arrival : Arrival} {arrivals : Nat → Arrival} {text ending : String}
  {events : List AuditEvent} {failure : Failure} {r : Request}
  {result : Except CheckError Decision} {after : Service}

/-! ## Reading a text -/

/-- The request that a text writes down, or what is wrong with it. -/
def requestOf (text : String) : Except Failure Request := decodeDocument Wire.decodeRequest text

theorem glyphsOfBytes_encode (text : String) :
    glyphsOfBytes (Utf8.encode text) = glyphsOfText text := by
  rw [Utf8.encode_eq_flatMap, glyphsOfText]
  induction text.toList with
  | nil => rw [List.flatMap_nil, List.map_nil, glyphsOfBytes]
  | cons c cs ih =>
    obtain ⟨b, more, e, read⟩ := Utf8.step_encodeChar 0 c (cs.flatMap String.utf8EncodeChar)
    rw [List.flatMap_cons, e, List.cons_append, glyphsOfBytes]
    split
    · next c' after found =>
      rw [read] at found
      cases found
      rw [ih, List.map_cons]
    · next found =>
      rw [read] at found
      cases found

/-- A text that can be a line: it is not empty, holds no line feed, and neither begins nor ends
with white space. -/
structure OneLine (text : String) : Prop where
  filled : text ≠ ""
  single : '\n' ∉ text.toList
  first : ∀ c, text.toList.head? = some c → isBlank c = false
  last : ∀ c, text.toList.getLast? = some c → isBlank c = false

theorem OneLine.trimChars_eq (h : OneLine text) : trimChars text.toList = text.toList :=
  trimChars_eq_self h.first h.last

/-! ## Over HTTP -/

namespace Http

/-- A call that posts a text, as JSON, to be checked. -/
structure Call.Posts (c : Call) (text : String) : Prop where
  method : c.method = "POST"
  path : Route.pathOf c.target = "/v4/allowlist/resolve".toList
  json : c.saysJson = true
  body : c.body = Utf8.encode text
  short : (Utf8.encode text).length ≤ bodyLimit

/-- A body is JSON if its call says so in the plainest way. -/
theorem Call.saysJson_of_header {c : Call}
    (h : c.header? "content-type" = some "application/json") : c.saysJson = true := by
  rw [saysJson, readableHeader?, contentTypeHeader, h]
  decide +kernel

/-- Why a body is rejected of which no request can be read. -/
def Rejection.ofFailure : Failure → Rejection
  | .fault _ => .malformed
  | failure => .mistyped failure

variable {c : Call}

theorem Call.Posts.asks (posts : c.Posts text) : c.Asks := ⟨posts.method, posts.path⟩

theorem request_of_posts (posts : c.Posts text) :
    c.request = (requestOf text).mapError Rejection.ofFailure := by
  have short : ¬ bodyLimit < c.body.bytes.length := by
    rw [posts.body]
    exact Nat.not_lt.2 posts.short
  have read : decodeText Wire.decodeRequest (glyphsOfText text) = requestOf text := rfl
  rw [Call.request, posts.json, if_neg (by decide), if_neg short, posts.body]
  dsimp only
  rw [glyphsOfBytes_encode, read]
  cases requestOf text with
  | ok r => rfl
  | error failure => cases failure <;> rfl

theorem answer_of_error (s : Service) (arrival : Arrival) (posts : c.Posts text)
    (flawed : requestOf text = .error failure) :
    ∃ after, answer s arrival c = some (.error 400 (c.idAt arrival)
      (invalidRequest (Rejection.ofFailure failure).message), after) ∧
      s.session.Sent after.session [] := by
  have rejected : c.request = .error (.ofFailure failure) := by
    rw [request_of_posts posts, flawed]
    rfl
  rw [answer_of_asks posts.asks, answerResolve, rejected]
  exact ⟨_, rfl, Service.sent_log (.refl _) rfl⟩

/-- The reply to a check. -/
def Reply.ofCheck (id : String) : Except CheckError Decision → Reply
  | .ok d => .json 200 id (Wire.encodeDecision d)
  | .error e => .error (statusOf e) id e.message

theorem answer_of_check (posts : c.Posts text) (decoded : requestOf text = .ok r)
    (checked : s.check arrival.moment (c.idAt arrival) r = some (result, after))
    (sent : s.session.Sent after.session events) :
    ∃ after, answer s arrival c = some (.ofCheck (c.idAt arrival) result, after) ∧
      s.session.Sent after.session events := by
  have accepted : c.request = .ok r := by
    rw [request_of_posts posts, decoded]
    rfl
  rw [answer_of_asks posts.asks, answerResolve, accepted]
  dsimp only
  rw [checked]
  cases result with
  | ok d => exact ⟨_, rfl, sent⟩
  | error e => exact ⟨_, rfl, Service.sent_log sent rfl⟩

end Http

/-! ## As a line -/

namespace Lines

theorem allBlank_of_ending (ends : ending = "" ∨ ending = "\n") : AllBlank ending.toList := by
  rcases ends with rfl | rfl
  · exact fun c mem => absurd mem List.not_mem_nil
  · exact fun c mem => List.mem_singleton.1 mem ▸ rfl

theorem trimChars_append_ending (line : OneLine text) (ends : ending = "" ∨ ending = "\n") :
    trimChars (text ++ ending).toList = text.toList := by
  have trimmed := trimChars_append_of_blank (w := []) (fun _ mem => absurd mem List.not_mem_nil)
    (allBlank_of_ending ends) text.toList
  rw [List.nil_append, line.trimChars_eq] at trimmed
  rw [String.toList_append, trimmed]

theorem readRequest_of_line (line : OneLine text) (ends : ending = "" ∨ ending = "\n") :
    readRequest (text ++ ending) =
      (requestOf text).mapError fun failure => invalidMessage failure.message := by
  rw [readRequest, trimChars_append_ending line ends]
  rfl

/-- A stream of one line is not cut. -/
theorem cut_line (line : OneLine text) (ends : ending = "" ∨ ending = "\n") :
    cut (Utf8.encode (text ++ ending)) = [Utf8.encode (text ++ ending)] := by
  have single : lineFeed ∉ Utf8.encode text := fun mem =>
    line.single (Utf8.char_mem_of_mem_encode (by decide) mem)
  refine (pieces_splitAfter _ _).unique ?_
  rcases ends with rfl | rfl
  · have none : Utf8.encode "" = [] := by
      rw [Utf8.encode_eq_flatMap]
      rfl
    rw [String.append_empty]
    refine .last (fun empty => line.filled ?_) single
    exact Utf8.encode_injective (empty.trans none.symm)
  · rw [Utf8.encode_eq_flatMap, String.toList_append, List.flatMap_append, ← Utf8.encode_eq_flatMap]
    exact .next single .nil

/-- A stream of one line is answered as the text of the line is. -/
theorem serve_line (line : OneLine text) (ends : ending = "" ∨ ending = "\n") {v : Value}
    (answered : answerText s (arrivals 0) text.toList = some (v, after)) :
    serve arrivals s (Utf8.encode (text ++ ending)) = ⟨[v], after, true⟩ := by
  have filled : ¬ AllBlank (text ++ ending).toList := by
    rw [← trimChars_eq_nil_iff, trimChars_append_ending line ends]
    exact fun empty => line.filled (String.toList_injective empty)
  have whole : answer s (arrivals 0) (Utf8.encode (text ++ ending)) = some (some v, after) := by
    rw [answer, ofBytes_encode filled, trimChars_append_ending line ends]
    dsimp only
    rw [answered]
    rfl
  rw [serve, cut_line line ends, serveFrom, whole]
  rfl

theorem answerText_of_error (s : Service) (arrival : Arrival)
    (flawed : requestOf text = .error failure) :
    ∃ after, answerText s arrival text.toList
        = some (errorAnswer (invalidMessage failure.message) arrival.freshId, after) ∧
      s.session.Sent after.session [] := by
  have rejected : decodeText Wire.decodeRequest (text.toList.map some) = .error failure := flawed
  rw [answerText, rejected]
  exact ⟨_, rfl, Service.sent_log (.refl _) rfl⟩

/-- The answer to a check. -/
def answerToCheck (id : String) : Except CheckError Decision → Value
  | .ok d => Wire.encodeDecision d
  | .error e => errorAnswer e.message id

theorem answerText_of_check (decoded : requestOf text = .ok r)
    (checked : s.check arrival.moment arrival.freshId r = some (result, after))
    (sent : s.session.Sent after.session events) :
    ∃ after, answerText s arrival text.toList
        = some (answerToCheck arrival.freshId result, after) ∧
      s.session.Sent after.session events := by
  have accepted : decodeText Wire.decodeRequest (text.toList.map some) = .ok r := decoded
  rw [answerText, accepted]
  dsimp only
  rw [checked]
  cases result with
  | ok d => exact ⟨_, rfl, sent⟩
  | error e => exact ⟨_, rfl, Service.sent_log sent rfl⟩

end Lines

/-! ## Both ways -/

open Http Lines

/-- The reply to a text over HTTP by a service, the answer to it as a line by another one, and the
events that each of them sends, if they tell the same. -/
inductive Agree (s t : Service) (m m' : Moment) (id id' text : String) :
    Reply → Value → List AuditEvent → List AuditEvent → Prop
  /-- Both reject a text that writes down no request. -/
  | rejected {failure : Failure} : requestOf text = .error failure →
    Agree s t m m' id id' text
      (.error 400 id (invalidRequest (Rejection.ofFailure failure).message))
      (errorAnswer (invalidMessage failure.message) id') [] []
  /-- Both tell why the check has no decision. -/
  | failed {r : Request} {e : CheckError} {after after' : Service} : requestOf text = .ok r →
    s.check m id r = some (.error e, after) → t.check m' id' r = some (.error e, after') →
    Agree s t m m' id id' text (.error (statusOf e) id e.message) (errorAnswer e.message id') [] []
  /-- Both tell the decision. -/
  | decided {r : Request} {d d' : Decision} {after after' : Service} : requestOf text = .ok r →
    s.check m id r = some (.ok d, after) → t.check m' id' r = some (.ok d', after') →
    d.untimed = d'.untimed →
    Agree s t m m' id id' text (.json 200 id (Wire.encodeDecision d)) (Wire.encodeDecision d')
      d.events d'.events

variable {m m' : Moment} {id id' : String} {reply : Reply} {v : Value} {events' : List AuditEvent}

/-- What is told alike sends the same events, but for their times. -/
theorem Agree.untimed_events (h : Agree s t m m' id id' text reply v events events') :
    events.map AuditEvent.untimed = events'.map AuditEvent.untimed := by
  cases h with
  | rejected | failed => rfl
  | decided _ _ _ same => exact congrArg Decision.events same

/-- Answers to the check of one request that differ in times alone are told alike. -/
theorem agree_of_checks {result' : Except CheckError Decision} {after' : Service}
    (decoded : requestOf text = .ok r) (checked : s.check m id r = some (result, after))
    (checked' : t.check m' id' r = some (result', after'))
    (same : result.map Decision.untimed = result'.map Decision.untimed) :
    Agree s t m m' id id' text (.ofCheck id result) (answerToCheck id' result')
      (Service.reported result) (Service.reported result') := by
  cases result with
  | error e =>
    cases result' with
    | error e' =>
      obtain rfl : e = e' := Except.error.inj same
      exact .failed decoded checked checked'
    | ok d' => cases same
  | ok d =>
    cases result' with
    | error e' => cases same
    | ok d' => exact .decided decoded checked checked' (Except.ok.inj same)

/-- A text is told the same over HTTP and as a line, by services that read rules alike and hold the
same records, at any two times: the decision that its check comes to, but for the times of events,
or the reason why there is none, or that it writes down no request. The events that are sent are
the same but for their times, and one transport rejects the text exactly if the other one does. -/
theorem transports_agree (twin : s.Twin t) (hs : s.session.cache.Reachable)
    (ht : t.session.cache.Reachable)
    (fits : arrival.moment.started + s.timings.lifetime < clockLimit)
    (fits' : (arrivals 0).moment.started + t.timings.lifetime < clockLimit) {c : Http.Call}
    (posts : c.Posts text) (line : OneLine text) (ends : ending = "" ∨ ending = "\n") :
    ∃ reply after v after' events events',
      Http.answer s arrival c = some (reply, after) ∧
      Lines.serve arrivals t (Utf8.encode (text ++ ending)) = ⟨[v], after', true⟩ ∧
      Agree s t arrival.moment (arrivals 0).moment (c.idAt arrival) (arrivals 0).freshId text
        reply v events events' ∧
      s.session.Sent after.session events ∧ t.session.Sent after'.session events' ∧
      events.map AuditEvent.untimed = events'.map AuditEvent.untimed ∧
      ((∃ rejection, c.request = .error rejection) ↔
        ∃ message, Lines.readRequest (text ++ ending) = .error message) := by
  rw [request_of_posts posts, readRequest_of_line line ends]
  cases read : requestOf text with
  | error failure =>
    obtain ⟨after, replied, sent⟩ := Http.answer_of_error s arrival posts read
    obtain ⟨after', answered, sent'⟩ := Lines.answerText_of_error t (arrivals 0) read
    exact ⟨_, after, _, after', [], [], replied, serve_line line ends answered, .rejected read,
      sent, sent', rfl, ⟨fun _ => ⟨_, rfl⟩, fun _ => ⟨_, rfl⟩⟩⟩
  | ok r =>
    obtain ⟨result, checkedBy, checked, sent⟩ := Service.check_sent hs fits (c.idAt arrival) r
    obtain ⟨result', checkedBy', checked', sent'⟩ :=
      Service.check_sent ht fits' (arrivals 0).freshId r
    obtain ⟨after, replied, sent⟩ := Http.answer_of_check posts read checked sent
    obtain ⟨after', answered, sent'⟩ := Lines.answerText_of_check read checked' sent'
    have agree := agree_of_checks read checked checked' (twin.untimed_eq hs ht checked checked')
    exact ⟨_, after, _, after', _, _, replied, serve_line line ends answered, agree, sent, sent',
      agree.untimed_events, ⟨nofun, nofun⟩⟩

/-- A request that is posted, or written as a line. -/
def askedText : String := "\x7b\"repository\":\"Acme/x\",\"actors\":[\x7b\"sha\":\"1\"\x7d]\x7d"

/-- The call that posts it. -/
def askingCall : Http.Call where
  method := "POST"
  target := "/v4/allowlist/resolve?from=ci"
  headers := [("X-Request-Id", "r7"), ("Content-Type", "application/json")]
  body := Utf8.encode askedText

theorem transports_agree_acme :
    let s := Service.quiet
    let arrival : Arrival := ⟨1, ⟨5, 6, 0⟩⟩
    let arrivals (_ : Nat) : Arrival := ⟨2, ⟨7, 8, 9⟩⟩
    s.session.cache.Reachable ∧ arrival.moment.started + s.timings.lifetime < clockLimit ∧
    (arrivals 0).moment.started + s.timings.lifetime < clockLimit ∧ askingCall.Posts askedText ∧
    OneLine askedText ∧
    ∃ reply after v after' events events',
      Http.answer s arrival askingCall = some (reply, after) ∧
      Lines.serve arrivals s (Utf8.encode (askedText ++ "\n")) = ⟨[v], after', true⟩ ∧
      Agree s s arrival.moment (arrivals 0).moment "r7" (arrivals 0).freshId askedText reply v
        events events' ∧
      events.map AuditEvent.untimed = events'.map AuditEvent.untimed := by
  intro s arrival arrivals
  have reachable : s.Reachable .extended := (Service.Reachable.start _ _ _ .disabled).foldl _
  have lifetime : s.timings.lifetime = 300 * nanosPerSecond := Service.lifetime_foldl _ _
  have fits : arrival.moment.started + s.timings.lifetime < clockLimit := by
    rw [lifetime]
    decide
  have fits' : (arrivals 0).moment.started + s.timings.lifetime < clockLimit := by
    rw [lifetime]
    decide
  have header : askingCall.header? "content-type" = some "application/json" := by decide +kernel
  have posts : askingCall.Posts askedText :=
    ⟨rfl, by decide +kernel, Http.Call.saysJson_of_header header, rfl, by decide +kernel⟩
  have line : OneLine askedText := by
    refine ⟨by decide, by decide +kernel, fun c e => ?_, fun c e => ?_⟩
    · have first : askedText.toList.head? = some '\x7b' := by decide +kernel
      obtain rfl := Option.some.inj (first.symm.trans e)
      decide
    · have last : askedText.toList.getLast? = some '\x7d' := by decide +kernel
      obtain rfl := Option.some.inj (last.symm.trans e)
      decide
  have id : askingCall.idAt arrival = "r7" := by decide +kernel
  obtain ⟨reply, after, v, after', events, events', replied, answered, agree, -, -, same, -⟩ :=
    transports_agree (.refl s) reachable.cache reachable.cache fits fits' posts line (.inr rfl)
  exact ⟨reachable.cache, fits, fits', posts, line, reply, after, v, after', events, events',
    replied, answered, id ▸ agree, same⟩

end ClaExemption
