import ClaExemption.Http.Answer
import ClaExemption.Proofs.Lines.Isolation
import ClaExemption.Proofs.Service.ClockRange

/-!
# The id of a call

A call is answered under the id that it brings (`Call.Brings`), or else under a
fresh one of hexadecimal digits (`Call.idAt_cases`). Either can be the value of a
header (`isSendable_idAt`), so no reply goes without it (`answer_eq`). Handlers are
handed the same id, and write no other one into a body (`Reply.Tells`, one lemma for
each handler). Only a check for which the clock runs out has no reply
(`answer_eq_none_iff`). `reply_carries_id` puts these together.
-/

namespace ClaExemption.Http

open Json

variable {s after : Service} {m : Moment} {arrival : Arrival} {c : Call} {r : Reply}
  {id name value : String}

/-! ## Headers -/

/-- A call has a header, and this is its first value. -/
def Call.First (c : Call) (name value : String) : Prop :=
  ∃ before written after, c.headers = before ++ (written, value) :: after ∧
    written.toLower = name ∧ ∀ h ∈ before, h.1.toLower ≠ name

theorem Call.header?_eq_some_iff : c.header? name = some value ↔ c.First name value := by
  simp only [header?, First, Option.map_eq_some_iff, List.find?_eq_some_iff_append, beq_iff_eq,
    Bool.not_eq_true', beq_eq_false_iff_ne]
  constructor
  · rintro ⟨⟨written, _⟩, ⟨named, before, after, e, others⟩, rfl⟩
    exact ⟨before, written, after, e, named, others⟩
  · rintro ⟨before, written, after, e, named, others⟩
    exact ⟨(written, value), ⟨named, before, after, e, others⟩, rfl⟩

/-- A text holds visible characters of the basic alphabet, spaces and tabs only. -/
def Readable (value : String) : Prop :=
  ∀ ch ∈ value.toList, (32 ≤ ch.toNat ∧ ch.toNat < 127) ∨ ch = '\t'

theorem isReadable_iff : isReadable value = true ↔ Readable value := by
  simp only [isReadable, Readable, List.all_eq_true, Bool.or_eq_true, Bool.and_eq_true,
    decide_eq_true_eq, beq_iff_eq]

theorem Readable.isSendable (h : Readable value) : isSendable value = true := by
  simp only [Http.isSendable, List.all_eq_true, Bool.or_eq_true, Bool.and_eq_true,
    decide_eq_true_eq, beq_iff_eq, bne_iff_ne]
  exact fun ch mem => (h ch mem).imp_left fun ⟨low, high⟩ => ⟨low, Nat.ne_of_lt high⟩

/-- A header that is set is there once, with its value. -/
theorem Reply.filter_setHeader (r : Reply) (name value : String) :
    (r.setHeader name value).headers.filter (·.1 == name) = [(name, value)] := by
  have others : ∀ h ∈ r.headers.filter (·.1 != name), ¬ (h.1 == name) = true := fun h mem =>
    by simpa using (List.mem_filter.1 mem).2
  refine (List.filter_cons_of_pos ?_).trans (congrArg _ (List.filter_eq_nil_iff.2 others))
  exact beq_self_eq_true name

/-! ## The id -/

/-- A call brings an id: the first value of the header for it, unless that is empty or cannot be
read. -/
structure Call.Brings (c : Call) (id : String) : Prop where
  first : c.First "x-request-id" id
  filled : id ≠ ""
  readable : Readable id

theorem Call.requestId?_eq_some_iff : c.requestId? = some id ↔ c.Brings id := by
  have held : c.requestId? = some id ↔
      c.header? requestIdHeader = some id ∧ isReadable id = true ∧ id ≠ "" := by
    simp only [requestId?, readableHeader?, Option.bind_eq_some_iff, Option.filter_eq_some_iff,
      nonEmpty?, Option.ite_none_left_eq_some, Option.some.injEq]
    constructor
    · rintro ⟨_, ⟨first, readable⟩, filled, rfl⟩
      exact ⟨first, readable, filled⟩
    · rintro ⟨first, readable, filled⟩
      exact ⟨id, ⟨first, readable⟩, filled, rfl⟩
  rw [held, header?_eq_some_iff, isReadable_iff]
  exact ⟨fun ⟨first, readable, filled⟩ => ⟨first, filled, readable⟩,
    fun h => ⟨h.first, h.readable, h.filled⟩⟩

theorem Call.Brings.unique {id' : String} (h : c.Brings id) (h' : c.Brings id') : id = id' := by
  rw [← requestId?_eq_some_iff] at h h'
  exact Option.some.inj (h.symm.trans h')

theorem mem_toDigits_hex {n : Nat} : ∀ ch ∈ Nat.toDigits 16 n, ch ∈ "0123456789abcdef".toList := by
  -- The last digit is a remainder; those in front of it write the quotient, which is smaller.
  have digit : ∀ d < 16, Nat.digitChar d ∈ "0123456789abcdef".toList := by decide
  induction n using Nat.strongRecOn with
  | ind n ih =>
    rcases Nat.lt_or_ge n 16 with small | large
    · rw [Nat.toDigits_of_lt_base small]
      exact List.forall_mem_singleton.2 (digit n small)
    · rw [Nat.toDigits_of_base_le (by decide) large]
      exact List.forall_mem_append.2 ⟨ih (n / 16) (by omega),
        List.forall_mem_singleton.2 (digit _ (Nat.mod_lt n (by decide)))⟩

/-- A text is a fresh id: it is not empty, and holds hexadecimal digits with small letters only. -/
structure Fresh (id : String) : Prop where
  filled : id ≠ ""
  digits : ∀ ch ∈ id.toList, ch ∈ "0123456789abcdef".toList

theorem fresh_freshId (arrival : Arrival) : Fresh arrival.freshId := by
  refine ⟨fun empty => ?_, fun ch mem => ?_⟩
  · rw [Arrival.freshId, String.ofList_eq_empty_iff] at empty
    exact Nat.toDigits_ne_nil empty
  · rw [Arrival.freshId, String.toList_ofList] at mem
    exact mem_toDigits_hex ch mem

theorem Fresh.readable (h : Fresh id) : Readable id := by
  have digits : Readable "0123456789abcdef" := isReadable_iff.1 (by decide +kernel)
  exact fun ch mem => digits ch (h.digits ch mem)

/-- The id under which a call is answered. -/
def Call.idAt (c : Call) (arrival : Arrival) : String := c.requestId?.getD arrival.freshId

theorem Call.idAt_cases (c : Call) (arrival : Arrival) :
    c.Brings (c.idAt arrival) ∨
      (∀ id, ¬ c.Brings id) ∧ c.idAt arrival = arrival.freshId ∧ Fresh (c.idAt arrival) := by
  unfold idAt
  cases brought : c.requestId? with
  | some id => exact .inl (requestId?_eq_some_iff.1 brought)
  | none =>
    refine .inr ⟨fun id brings => ?_, rfl, fresh_freshId arrival⟩
    rw [requestId?_eq_some_iff.2 brings] at brought
    cases brought

theorem isSendable_idAt (c : Call) (arrival : Arrival) : isSendable (c.idAt arrival) = true := by
  rcases c.idAt_cases arrival with brings | ⟨-, -, fresh⟩
  · exact brings.readable.isSendable
  · exact fresh.readable.isSendable

/-- Every reply gets the id of its call for a header. -/
theorem answer_eq (s : Service) (arrival : Arrival) (c : Call) :
    answer s arrival c =
      (answerTarget s arrival.moment (c.idAt arrival) c).map fun (r, after) =>
        (r.setHeader requestIdHeader (c.idAt arrival), after) := by
  -- The id has to pass a second test to get out as a header, and always does.
  have carried : ∀ r : Reply, r.identify (c.idAt arrival) =
      r.setHeader requestIdHeader (c.idAt arrival) := fun _ => if_pos (isSendable_idAt c arrival)
  show (answerTarget s arrival.moment (c.idAt arrival) c).map
    (fun (r, after) => (r.identify (c.idAt arrival), after)) = _
  simp only [carried]

/-- A reply with JSON that carries the id of its call. -/
def Reply.json (status : Nat) (id : String) (value : Value) : Reply :=
  (Reply.ofJson status value).setHeader requestIdHeader id

/-- A reply that tells of an error and carries the id of its call. -/
def Reply.error (status : Nat) (id message : String) : Reply :=
  .json status id (errorObject status id message)

@[simp]
theorem Reply.status_json (status : Nat) (id : String) (value : Value) :
    (Reply.json status id value).status = status := rfl

@[simp]
theorem Reply.status_error (status : Nat) (id message : String) :
    (Reply.error status id message).status = status := rfl

/-! ## Calls for a check -/

/-- A call asks for a check. -/
structure Call.Asks (c : Call) : Prop where
  method : c.method = "POST"
  path : Route.pathOf c.target = "/v4/allowlist/resolve".toList

theorem Route.ofTarget?_eq_resolve_iff {target : String} :
    ofTarget? target = some .resolve ↔ pathOf target = "/v4/allowlist/resolve".toList := by
  constructor
  · intro routed
    unfold ofTarget? at routed
    dsimp only at routed
    split at routed
    · cases routed
    · split at routed
      · next path => exact path
      · split at routed
        · cases routed
        · split at routed
          · split at routed <;> cases routed
          · cases routed
  · intro path
    have other : "/v4/allowlist/resolve".toList ≠ "/health".toList := by decide
    unfold ofTarget?
    rw [path]
    exact (if_neg other).trans (if_pos rfl)

theorem answerTarget_of_asks (asks : c.Asks) (s : Service) (m : Moment) (id : String) :
    answerTarget s m id c = answerResolve s m id c := by
  unfold answerTarget
  rw [Route.ofTarget?_eq_resolve_iff.2 asks.path]
  dsimp only
  unfold answerRoute
  rw [asks.method]
  rfl

/-- A call for a check gets the reply to it, with its id. -/
theorem answer_of_asks (asks : c.Asks) (s : Service) (arrival : Arrival) :
    answer s arrival c = (answerResolve s arrival.moment (c.idAt arrival) c).map fun (r, after) =>
      (r.setHeader requestIdHeader (c.idAt arrival), after) := by
  rw [answer_eq, answerTarget_of_asks asks]

/-! ## The id in bodies -/

/-- JSON in a reply tells of success and names no id, or it is the object that tells of an error,
with the status of the reply and the id. -/
def Reply.Tells (r : Reply) (id : String) : Prop :=
  ∀ v, r.content = .json v →
    (r.status = 200 ∧ "request_id" ∉ v.names) ∨ ∃ message, v = errorObject r.status id message

theorem Reply.tells_ofJson {v : Value} (unnamed : "request_id" ∉ v.names) :
    (Reply.ofJson 200 v).Tells id := by
  intro w e
  cases e
  exact .inl ⟨rfl, unnamed⟩

theorem Reply.tells_ofOptions {members : List (String × Option Value)}
    (unnamed : "request_id" ∉ members.map (·.1)) :
    (Reply.ofJson 200 (.ofOptions members)).Tells id :=
  tells_ofJson fun mem => unnamed (Value.mem_names_ofOptions mem)

theorem Reply.tells_refusal (status : Nat) (id message : String) :
    (Reply.refusal status id message).Tells id := by
  intro v e
  cases e
  exact .inr ⟨message, rfl⟩

theorem tells_answerOrganization (s : Service) (id segment : String) :
    (answerOrganization s id segment).Tells id := by
  unfold answerOrganization
  split
  · exact nofun
  · split
    · exact Reply.tells_ofOptions (by simp)
    · exact Reply.tells_refusal _ _ _

theorem tells_answerRead (s : Service) (id : String) (route : Route) :
    (answerRead s id route).Tells id := by
  cases route with
  | health => exact Reply.tells_ofJson (by simp [Value.names])
  | organizations => exact Reply.tells_ofJson List.not_mem_nil
  | organization segment => exact tells_answerOrganization s id segment
  | resolve => exact nofun

theorem tells_answerResolve (answered : answerResolve s m id c = some (r, after)) : r.Tells id := by
  unfold answerResolve at answered
  split at answered
  · cases answered
    exact Reply.tells_refusal _ _ _
  · obtain ⟨⟨result, s'⟩, -, replied⟩ := Option.bind_eq_some_iff.1 answered
    cases result with
    | ok d =>
      cases replied
      exact Reply.tells_ofOptions (by simp)
    | error e =>
      cases replied
      exact Reply.tells_refusal _ _ _

/-- A call asks for a check, or it gets a reply that leaves the service as it is. -/
theorem answerTarget_cases (s : Service) (m : Moment) (id : String) (c : Call) :
    c.Asks ∧ answerTarget s m id c = answerResolve s m id c ∨
      ¬ c.Asks ∧ ∃ r, answerTarget s m id c = some (r, s) ∧ r.Tells id := by
  by_cases asks : c.Asks
  · exact .inl ⟨asks, answerTarget_of_asks asks s m id⟩
  · refine .inr ⟨asks, ?_⟩
    unfold answerTarget answerRoute
    split
    · next route routed =>
      split
      · exact ⟨_, rfl, nofun⟩
      · next contained =>
        cases route with
        | resolve =>
          have method : c.method = "POST" := by
            simpa [Route.methods, Methods.contain] using contained
          exact absurd ⟨method, Route.ofTarget?_eq_resolve_iff.1 routed⟩ asks
        | health | organizations | organization =>
          refine ⟨_, rfl, ?_⟩
          split
          · exact nofun
          · exact tells_answerRead s id _
    · exact ⟨_, rfl, nofun⟩

theorem tells_answerTarget (answered : answerTarget s m id c = some (r, after)) : r.Tells id := by
  rcases answerTarget_cases s m id c with ⟨-, resolved⟩ | ⟨-, r', replied, told⟩
  · exact tells_answerResolve (resolved.symm.trans answered)
  · rw [answered] at replied
    cases replied
    exact told

/-! ## Calls without a reply -/

theorem answerResolve_eq_none_iff :
    answerResolve s m id c = none ↔
      (∃ r, c.request = .ok r) ∧ ¬ m.started + s.timings.lifetime < clockLimit := by
  unfold answerResolve
  cases accepted : c.request with
  | error rejection => exact iff_of_false nofun fun ⟨⟨_, e⟩, _⟩ => nomatch e
  | ok r =>
    have checked : s.check m id r = none ↔ ¬ m.started + s.timings.lifetime < clockLimit := by
      rw [← Option.not_isSome_iff_eq_none, Service.check_isSome_iff]
    rw [← checked]
    dsimp only
    cases s.check m id r with
    | none => exact iff_of_true rfl ⟨⟨r, rfl⟩, rfl⟩
    | some answered =>
      obtain ⟨result, after⟩ := answered
      cases result <;> exact iff_of_false nofun fun ⟨_, e⟩ => nomatch e

/-- A call is left without a reply exactly if it is one for a check, its body is a request, and the
clock cannot show when the timing of the check expires. -/
theorem answer_eq_none_iff :
    answer s arrival c = none ↔ c.Asks ∧ (∃ r, c.request = .ok r) ∧
      ¬ arrival.moment.started + s.timings.lifetime < clockLimit := by
  rw [answer_eq, Option.map_eq_none_iff]
  rcases answerTarget_cases s arrival.moment (c.idAt arrival) c with
    ⟨asks, resolved⟩ | ⟨other, r, replied, -⟩
  · rw [resolved, answerResolve_eq_none_iff]
    exact (and_iff_right asks).symm
  · rw [replied]
    exact iff_of_false nofun fun ⟨asks, _⟩ => other asks

/-! ## All calls -/

/-- Every reply has one header with the id of its call, which is the one that the call brings, or
else a fresh one. JSON that does not tell of success is an object with the status, a message and
this id. Only a check for which the clock runs out has no reply. -/
theorem reply_carries_id (s : Service) (arrival : Arrival) (c : Call) :
    (answer s arrival c = none ↔ c.Asks ∧ (∃ r, c.request = .ok r) ∧
      ¬ arrival.moment.started + s.timings.lifetime < clockLimit) ∧
    ∃ id, (c.Brings id ∨ (∀ brought, ¬ c.Brings brought) ∧ id = arrival.freshId ∧ Fresh id) ∧
      ∀ r after, answer s arrival c = some (r, after) →
        r.headers.filter (·.1 == "x-request-id") = [("x-request-id", id)] ∧
        ∀ v, r.content = .json v →
          (r.status = 200 ∧ "request_id" ∉ v.names) ∨
          ∃ message, v = .object
            [("code", .int r.status), ("message", .text message), ("request_id", .text id)] := by
  refine ⟨answer_eq_none_iff, c.idAt arrival, c.idAt_cases arrival, fun r after answered => ?_⟩
  rw [answer_eq, Option.map_eq_some_iff] at answered
  obtain ⟨⟨handled, after'⟩, target, e⟩ := answered
  cases e
  have told : handled.Tells (c.idAt arrival) := tells_answerTarget target
  exact ⟨handled.filter_setHeader requestIdHeader _, told⟩

/-- A call with two ids that does not say what its body is. -/
def unlabelledCall : Call where
  method := "POST"
  target := "/v4/allowlist/resolve"
  headers := [("X-Request-ID", "r 7"), ("x-request-id", "r8")]

theorem reply_carries_id_unlabelled :
    let arrival : Arrival := ⟨1, ⟨5, 6, 0⟩⟩
    unlabelledCall.Brings "r 7" ∧
    ∃ r after, answer Service.quiet arrival unlabelledCall = some (r, after) ∧
      r.headers.filter (·.1 == "x-request-id") = [("x-request-id", "r 7")] ∧
      ∃ message, r.content = .json (.object
        [("code", .int 400), ("message", .text message), ("request_id", .text "r 7")]) := by
  intro arrival
  have brings : unlabelledCall.Brings "r 7" := Call.requestId?_eq_some_iff.1 (by decide +kernel)
  have asks : unlabelledCall.Asks := ⟨rfl, by decide +kernel⟩
  have rejected : unlabelledCall.request = .error .contentType := by
    rw [Call.request, if_pos (by decide +kernel)]
  obtain ⟨-, id, known, carries⟩ := reply_carries_id Service.quiet arrival unlabelledCall
  obtain rfl : id = "r 7" := by
    rcases known with brings' | ⟨none, -⟩
    · exact brings'.unique brings
    · exact absurd brings (none _)
  obtain ⟨r, after, v, answered, status, content⟩ :
      ∃ r after v, answer Service.quiet arrival unlabelledCall = some (r, after) ∧
        r.status = 400 ∧ r.content = .json v := by
    rw [answer_of_asks asks, answerResolve, rejected]
    exact ⟨_, _, _, rfl, rfl, rfl⟩
  obtain ⟨header, told⟩ := carries r after answered
  rcases told v content with ⟨ok, -⟩ | ⟨message, rfl⟩
  · rw [status] at ok
    cases ok
  · rw [status] at content
    exact ⟨brings, r, after, answered, header, message, content⟩

end ClaExemption.Http
