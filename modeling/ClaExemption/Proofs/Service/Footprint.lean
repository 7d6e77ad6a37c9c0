import ClaExemption.Proofs.Lines.Isolation

/-!
# What a check leaves behind

A check starts a timing and clears it, so of a service it changes nothing but
the session, and takes away what was timed under its id (`Service.Spares`). If
it fails, it has not used the session either (`Session.Unused`, `exists_check`).
Both hold of any service, whatever its cache holds and whatever is in flight.
`Spares` composes, so checks one after another (`exists_askAll?`) and streams of
lines (`exists_serveFrom`) take away the timings of their own ids alone.
`check_leaves_no_trace` puts these together with the three ways a check ends.
-/

namespace ClaExemption

/-! ## Which organization a request is about -/

/-- No record is filed under the name of an organization. -/
def Registry.Lacks (r : Registry) (name : String) : Prop :=
  ∀ org, (Text.lowercase name, org) ∉ r.records

theorem Registry.get?_eq_none_iff {r : Registry} {name : String} :
    r.get? name = none ↔ r.Lacks name := by
  simp only [get?, Option.map_eq_none_iff, List.find?_eq_none, beq_iff_eq, Prod.forall, Lacks]
  exact ⟨fun h org mem => h _ org mem rfl, fun h key org mem e => h org (e ▸ mem)⟩

theorem nonEmpty?_eq_none_iff {s : String} : nonEmpty? s = none ↔ s = "" := by
  simp [nonEmpty?]

theorem ownerName?_eq_none_iff {full : String} :
    ownerName? full = none ↔ '/' ∉ full.toList ∨ ∃ rest, full.toList = '/' :: rest := by
  unfold ownerName?
  cases e : Text.cutFirst '/' full.toList with
  | none =>
    refine iff_of_true rfl (.inl fun mem => ?_)
    obtain ⟨before, rest, split, first⟩ := List.eq_append_cons_of_mem mem
    rw [Text.cutFirst_eq_some.2 ⟨split, first⟩] at e
    cases e
  | some cut =>
    obtain ⟨owner, rest⟩ := cut
    obtain ⟨split, first⟩ := Text.cutFirst_eq_some.1 e
    rw [Option.bind_some, nonEmpty?_eq_none_iff, String.ofList_eq_empty_iff, split]
    constructor
    · rintro rfl
      exact .inr ⟨rest, rfl⟩
    · rintro (absent | ⟨rest', e⟩)
      · exact absurd (List.mem_append_right _ List.mem_cons_self) absent
      · -- The owner holds no slash, so it cannot begin with the one that begins the name.
        cases owner with
        | nil => rfl
        | cons c owner =>
          exact absurd (List.cons.inj e).1.symm fun h => first (h ▸ List.mem_cons_self)

/-- A request names no organization if it gives none, or an empty one, and its repository has no
slash or nothing in front of its first one. -/
theorem Request.organizationName_eq_none_iff {r : Request} :
    r.organizationName = none ↔ (∀ name, r.organization = some name → name = "") ∧
      ('/' ∉ r.repository.toList ∨ ∃ rest, r.repository.toList = '/' :: rest) := by
  rw [organizationName, Option.or_eq_none_iff, Option.bind_eq_none_iff, ownerName?_eq_none_iff]
  simp only [nonEmpty?_eq_none_iff]

/-! ## Timings and sessions -/

/-- The timings without those of some ids. -/
def Timings.withoutAll (t : Timings) (ids : List String) : Timings :=
  { t with entries := t.entries.filter fun e => e.1 ∉ ids }

theorem Timings.withoutAll_nil (t : Timings) : t.withoutAll [] = t := by
  simp [withoutAll]

theorem Timings.withoutAll_append (t : Timings) (ids ids' : List String) :
    (t.withoutAll ids).withoutAll ids' = t.withoutAll (ids ++ ids') := by
  simp [withoutAll, List.filter_filter, Bool.and_comm]

theorem Timings.without_eq (t : Timings) (id : String) : t.without id = t.withoutAll [id] := by
  have same : ∀ e : String × InFlight, (e.1 != id) = decide (e.1 ∉ [id]) := fun e => by
    rw [Bool.eq_iff_iff, bne_iff_ne, decide_eq_true_iff, List.mem_singleton]
  rw [without, withoutAll, funext same]

/-- Starting a timing and clearing it takes away what was timed under its id. -/
theorem Timings.clear_start? {t t' : Timings} {id method : String} {now : Instant}
    (started : t.start? id method now = some t') (later : Instant) :
    (t'.clear id later).2 = t.withoutAll [id] := by
  unfold start? at started
  split at started
  · cases started
    rw [← without_eq]
    simp [clear, without, List.filter_filter]
  · cases started

/-- Between two sessions nothing was compiled or sent. -/
structure Session.Unused (s s' : Session) : Prop where
  cache : s'.cache = s.cache
  sink : s'.sink = s.sink
  audit : s'.audited = s.audited

namespace Service

/-- A service is left as it was but for its session, and without the timings of some ids. -/
structure Spares (s after : Service) (ids : List String) : Prop where
  timings : after.timings = s.timings.withoutAll ids
  registry : after.registry = s.registry
  grammar : after.grammar = s.grammar
  name : after.name = s.name
  version : after.version = s.version

variable {s t u : Service} {m : Moment} {requestId : String} {r : Request}
  {ids ids' : List String}

theorem Spares.refl (s : Service) : Spares s s [] :=
  ⟨s.timings.withoutAll_nil.symm, rfl, rfl, rfl, rfl⟩

theorem Spares.trans (h : Spares s t ids) (h' : Spares t u ids') : Spares s u (ids ++ ids') := by
  refine ⟨?_, h'.registry.trans h.registry, h'.grammar.trans h.grammar, h'.name.trans h.name,
    h'.version.trans h.version⟩
  rw [h'.timings, h.timings, Timings.withoutAll_append]

theorem Spares.log (h : Spares s t ids) (entry : Entry) : Spares s (t.log entry) ids :=
  ⟨h.timings, h.registry, h.grammar, h.name, h.version⟩

/-- Logging what is not for the audit log leaves a session as unused as it was. -/
theorem unused_log (quiet : s.session.Unused t.session) {entry : Entry}
    (plain : entry.audit = false) : s.session.Unused (t.log entry).session :=
  ⟨quiet.cache, quiet.sink, (filter_audit_concat t.session.log plain).trans quiet.audit⟩

theorem Spares.lifetime (h : Spares s t ids) : t.timings.lifetime = s.timings.lifetime := by
  rw [h.timings]
  rfl

/-- What was not timed before is not timed afterwards. -/
theorem Spares.empty (h : Spares s t ids) (none : s.timings.entries = []) :
    t.timings.entries = [] := by
  rw [h.timings, Timings.withoutAll, none]
  rfl

/-! ## One check -/

/-- How a check may end: for want of a name or of a record, or with a decision. -/
inductive Ends (s : Service) (r : Request) : Except CheckError Decision → Prop
  | unnamed : r.organizationName = none → Ends s r (.error (.noOrganization r.repository))
  | unknown {name : String} : r.organizationName = some name → s.registry.Lacks name →
    Ends s r (.error (.unknownOrganization name))
  | decided {name : String} (d : Decision) : r.organizationName = some name →
    ¬ s.registry.Lacks name → Ends s r (.ok d)

theorem outcome_ends (s : Service) (now : UInt64) (r : Request) : s.Ends r (s.outcome now r).1 := by
  unfold outcome organizationOf organization
  cases named : r.organizationName with
  | none => exact .unnamed named
  | some name =>
    dsimp only
    cases found : s.registry.get? name with
    | none => exact .unknown named (Registry.get?_eq_none_iff.1 found)
    | some org =>
      refine .decided _ named fun lacks => ?_
      rw [Registry.get?_eq_none_iff.2 lacks] at found
      cases found

theorem Ends.unnamed_iff {answer : Except CheckError Decision} (h : s.Ends r answer)
    (repository : String) : answer = .error (.noOrganization repository) ↔
      r.organizationName = none ∧ repository = r.repository := by
  cases h with
  | unnamed named => exact ⟨fun e => by cases e; exact ⟨named, rfl⟩, fun ⟨_, e⟩ => by rw [e]⟩
  | unknown named | decided _ named => simp [named]

theorem Ends.unknown_iff {answer : Except CheckError Decision} (h : s.Ends r answer)
    (name : String) : answer = .error (.unknownOrganization name) ↔
      r.organizationName = some name ∧ s.registry.Lacks name := by
  cases h with
  | unnamed named => simp [named]
  | unknown named lacks =>
    rw [named]
    exact ⟨fun e => by cases e; exact ⟨rfl, lacks⟩, fun ⟨e, _⟩ => by cases e; rfl⟩
  | decided d named held =>
    rw [named]
    exact ⟨nofun, fun ⟨e, lacks⟩ => absurd (Option.some.inj e ▸ lacks) held⟩

theorem Ends.decided_iff {answer : Except CheckError Decision} (h : s.Ends r answer) :
    (∃ d, answer = .ok d) ↔ ∃ name, r.organizationName = some name ∧ ¬ s.registry.Lacks name := by
  cases h with
  | unnamed named => simp [named]
  | unknown named lacks => simp [named, lacks]
  | decided d named held => exact iff_of_true ⟨d, rfl⟩ ⟨_, named, held⟩

/-- A failure lies before the session is used. -/
theorem outcome_unused {now : UInt64} {e : CheckError} (failed : (s.outcome now r).1 = .error e) :
    (s.outcome now r).2 = s.session := by
  unfold outcome at failed ⊢
  split
  · rfl
  · next found =>
    rw [found] at failed
    cases failed

/-- A check whose timing the clock can show ends, spares all but the timings of its id, and has not
used the session if it fails. -/
theorem exists_check (s : Service) (fits : m.started + s.timings.lifetime < clockLimit)
    (requestId : String) (r : Request) :
    ∃ answer after, s.check m requestId r = some (answer, after) ∧
      answer = (s.outcome m.now r).1 ∧ Spares s after [requestId] ∧
      ∀ e, answer = .error e → s.session.Unused after.session := by
  obtain ⟨started, starts⟩ : ∃ t, s.timings.start? requestId checkMethod m.started = some t :=
    ⟨_, if_pos fits⟩
  have cleared := Timings.clear_start? starts m.finished
  have unused : ∀ e, (s.outcome m.now r).1 = .error e →
      s.session.Unused (s.outcome m.now r).2 := fun e failed => by
    rw [outcome_unused failed]
    exact ⟨rfl, rfl, rfl⟩
  have spares : Spares s { s with
      timings := (started.clear requestId m.finished).2
      session := (s.outcome m.now r).2 } [requestId] :=
    ⟨cleared, rfl, rfl, rfl, rfl⟩
  unfold check
  rw [starts]
  refine ⟨_, _, rfl, rfl, ?_, fun e failed => ?_⟩
  · split
    · exact spares.log _
    · exact spares
  · have quiet := unused e failed
    split
    · exact unused_log quiet rfl
    · exact quiet

/-! ## Checks one after another -/

/-- A request to be checked, with its id and the times around the check. -/
structure Inquiry where
  moment : Moment
  id : String
  request : Request

/-- The service after a check; none if the clock cannot show when its timing expires. -/
def ask? (s : Service) (q : Inquiry) : Option Service :=
  (s.check q.moment q.id q.request).map (·.2)

/-- The service after checks one after another. -/
def askAll? (s : Service) (qs : List Inquiry) : Option Service := qs.foldlM ask? s

theorem exists_askAll? (qs : List Inquiry) (s : Service)
    (fits : ∀ q ∈ qs, q.moment.started + s.timings.lifetime < clockLimit) :
    ∃ after, s.askAll? qs = some after ∧ Spares s after (qs.map (·.id)) := by
  induction qs generalizing s with
  | nil => exact ⟨s, rfl, .refl s⟩
  | cons q qs ih =>
    obtain ⟨answer, next, checked, -, spares, -⟩ :=
      s.exists_check (fits q List.mem_cons_self) q.id q.request
    obtain ⟨after, rest, spares'⟩ := ih next fun q' mem => by
      rw [spares.lifetime]
      exact fits q' (List.mem_cons_of_mem _ mem)
    refine ⟨after, ?_, spares.trans spares'⟩
    rw [askAll?, List.foldlM_cons, ask?, checked]
    exact rest

end Service

/-! ## Streams -/

namespace Lines

open Service (Spares)

variable {line : List UInt8} {arrival : Arrival} {arrivals : Nat → Arrival} {s t : Service}

/-- A line that asks for a request takes away what was timed under its id, and any other line
nothing. -/
theorem exists_answer (fits : arrival.moment.started + t.timings.lifetime < clockLimit)
    (filled : ¬ IsBlank line) :
    ∃ v after ids, answer t arrival line = some (v, after) ∧ Spares t after ids ∧
      ∀ id, id ∈ ids ↔ (∃ r, Asks line (.ok r)) ∧ id = arrival.freshId := by
  have refused : ∀ {message : String}, Asks line (.error message) →
      ∀ id, id ∈ ([] : List String) ↔ (∃ r, Asks line (.ok r)) ∧ id = arrival.freshId :=
    fun asks id => ⟨nofun, fun ⟨⟨_, asks'⟩, _⟩ => nomatch asks.unique asks'⟩
  rcases flawed_or_text line with ⟨flaw, e, none⟩ | ⟨text, rfl⟩
  · rw [answer, ofBytes_of_error e]
    exact ⟨_, _, [], rfl, (Spares.refl t).log _, refused (.undecodable none e)⟩
  · have asks : Asks (Text.Utf8.encode text) (readRequest text) := .text rfl
    rw [answer, ofBytes_encode fun blank => filled ⟨text, blank, rfl⟩]
    unfold readRequest at asks
    dsimp only
    unfold answerText
    split
    · next e =>
      rw [e] at asks
      exact ⟨_, _, [], rfl, (Spares.refl t).log _, refused asks⟩
    · next r e =>
      rw [e] at asks
      obtain ⟨result, after, checked, -, spares, -⟩ := t.exists_check fits arrival.freshId r
      have asked : ∀ id, id ∈ [arrival.freshId] ↔
          (∃ r, Asks (Text.Utf8.encode text) (.ok r)) ∧ id = arrival.freshId :=
        fun id => by rw [List.mem_singleton]; exact ⟨fun e => ⟨⟨r, asks⟩, e⟩, And.right⟩
      rw [checked]
      cases result with
      | error flaw => exact ⟨_, _, _, rfl, spares.log _, asked⟩
      | ok d => exact ⟨_, _, _, rfl, spares, asked⟩

/-- A stream takes away what was timed under the ids of its lines that ask for requests. -/
theorem exists_serveFrom (lines : List (List UInt8)) (i : Nat) (s : Service)
    (fits : ∀ i, (arrivals i).moment.started + s.timings.lifetime < clockLimit) :
    (serveFrom arrivals i s lines).finished = true ∧
      ∃ ids, Spares s (serveFrom arrivals i s lines).service ids ∧
        ∀ id, id ∈ ids ↔ ∃ p ∈ requestsFrom i lines,
          (∃ r, Asks p.1 (.ok r)) ∧ id = (arrivals p.2).freshId := by
  induction lines generalizing i s with
  | nil => exact ⟨rfl, [], .refl s, fun id => ⟨nofun, fun ⟨_, mem, _⟩ => nomatch mem⟩⟩
  | cons line lines ih =>
    unfold requestsFrom serveFrom
    rw [List.zipIdx_cons]
    by_cases blank : IsBlank line
    · rw [answer_of_blank blank, List.filter_cons_of_neg (by simpa using blank)]
      exact ih (i + 1) s fits
    · obtain ⟨v, after, ids, answered, spares, asked⟩ := exists_answer (fits i) blank
      obtain ⟨finished, ids', spares', asked'⟩ := ih (i + 1) after fun i => by
        rw [spares.lifetime]
        exact fits i
      rw [answered, List.filter_cons_of_pos (by simpa using blank)]
      refine ⟨finished, ids ++ ids', spares.trans spares', fun id => ?_⟩
      rw [List.mem_append, asked, asked', List.exists_mem_cons_iff]
      rfl

end Lines

namespace Service

/-- A check ends, and takes nothing away but what was timed under its id; if it fails, nothing was
compiled or sent. It fails for want of an organization if the request names none, for want of a
record if there is none of the organization it names, and never else. So checks one after another,
and streams of lines, leave nothing timed if nothing was. -/
theorem check_leaves_no_trace (s : Service) :
    (∀ (m : Moment) (requestId : String) (r : Request),
      m.started + s.timings.lifetime < clockLimit →
      ∃ answer after, s.check m requestId r = some (answer, after) ∧ Spares s after [requestId] ∧
        (∀ e, answer = .error e → s.session.Unused after.session) ∧
        (∀ repository, answer = .error (.noOrganization repository) ↔
          r.organizationName = none ∧ repository = r.repository) ∧
        (r.organizationName = none ↔ (∀ name, r.organization = some name → name = "") ∧
          ('/' ∉ r.repository.toList ∨ ∃ rest, r.repository.toList = '/' :: rest)) ∧
        (∀ name, answer = .error (.unknownOrganization name) ↔
          r.organizationName = some name ∧ s.registry.Lacks name) ∧
        ((∃ d, answer = .ok d) ↔
          ∃ name, r.organizationName = some name ∧ ¬ s.registry.Lacks name)) ∧
    (∀ qs : List Inquiry, (∀ q ∈ qs, q.moment.started + s.timings.lifetime < clockLimit) →
      ∃ after, s.askAll? qs = some after ∧ Spares s after (qs.map (·.id)) ∧
        (s.timings.entries = [] → after.timings.entries = [])) ∧
    ∀ (arrivals : Nat → Arrival) (stream : List UInt8),
      (∀ i, (arrivals i).moment.started + s.timings.lifetime < clockLimit) →
      let served := Lines.serve arrivals s stream
      served.finished = true ∧
      ∃ ids, Spares s served.service ids ∧
        (∀ id, id ∈ ids ↔ ∃ p ∈ Lines.requests stream,
          (∃ r, Lines.Asks p.1 (.ok r)) ∧ id = (arrivals p.2).freshId) ∧
        (s.timings.entries = [] → served.service.timings.entries = []) := by
  refine ⟨fun m requestId r fits => ?_, fun qs fits => ?_, fun arrivals stream fits => ?_⟩
  · obtain ⟨answer, after, checked, rfl, spares, unused⟩ := s.exists_check fits requestId r
    have ends := s.outcome_ends m.now r
    exact ⟨_, after, checked, spares, unused, ends.unnamed_iff,
      Request.organizationName_eq_none_iff, ends.unknown_iff, ends.decided_iff⟩
  · obtain ⟨after, asked, spares⟩ := exists_askAll? qs s fits
    exact ⟨after, asked, spares, spares.empty⟩
  · obtain ⟨finished, ids, spares, asked⟩ := Lines.exists_serveFrom (Lines.cut stream) 0 s fits
    exact ⟨finished, ids, spares, asked, spares.empty⟩

/-- A service with two requests in flight, of which the first one has expired. -/
def occupied : Service :=
  { quiet with
    timings := { lifetime := 10, entries := [("x", ⟨"check", 0, 10⟩), ("y", ⟨"read", 15, 25⟩)] } }

theorem check_leaves_no_trace_occupied :
    let m : Moment := ⟨20, 40, 0⟩
    let r : Request := { organization := some "", repository := "/widgets" }
    m.started + occupied.timings.lifetime < clockLimit ∧
    (∃ after, occupied.check m "x" r = some (.error (.noOrganization "/widgets"), after) ∧
      after.timings.entries = [("y", ⟨"read", 15, 25⟩)] ∧
      occupied.session.Unused after.session) ∧
    ∃ after, occupied.askAll? [⟨m, "x", r⟩, ⟨m, "y", r⟩] = some after ∧
      after.timings.entries = [] := by
  intro m r
  have fits : m.started + occupied.timings.lifetime < clockLimit := by decide
  have unnamed : r.organizationName = none := by decide +kernel
  obtain ⟨checks, runs, -⟩ := check_leaves_no_trace occupied
  obtain ⟨answer, after, checked, spares, unused, invalid, -⟩ := checks m "x" r fits
  obtain rfl := (invalid "/widgets").2 ⟨unnamed, rfl⟩
  obtain ⟨last, asked, spares', -⟩ := runs [⟨m, "x", r⟩, ⟨m, "y", r⟩] (by simpa using fits)
  refine ⟨fits, ⟨after, checked, ?_, unused _ rfl⟩, last, asked, ?_⟩
  · rw [spares.timings]
    decide
  · rw [spares'.timings]
    decide

end Service

end ClaExemption
