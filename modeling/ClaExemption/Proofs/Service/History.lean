import ClaExemption.Proofs.Resolve.Partition
import ClaExemption.Service

/-!
# What a check depends on

`Service.Reachable` services are those that a history of `Happening`s leads to:
records come and go, checks are made, and others use the cache and the sink. A
check of such a service answers by the record of one organization alone
(`Service.check_answer`). So histories that leave the same record lead to the
same answer, and what does not concern the organization changes nothing
(`check_history_independent`).
-/

namespace ClaExemption

/-- What may happen to a service, and to what it shares with others. -/
inductive Happening where
  | upsert (org : Organization)
  | remove (name : String)
  | check (m : Moment) (requestId : String) (r : Request)
  | compile (source : String)
  | clearCache
  | report (event : AuditEvent)
  | drain
  | startTiming (id method : String) (now : Instant)
  | clearTiming (id : String) (now : Instant)
  | evict (now : Instant)

/-- Whether something changes the record of an organization. -/
def Happening.Concerns (name : String) : Happening → Prop
  | .upsert org => Text.lowercase name = Text.lowercase org.name
  | .remove gone => Text.lowercase name = Text.lowercase gone
  | _ => False

namespace Service

/-- The service after something has happened. A check whose timing the clock cannot show leaves it
as it was. -/
def after (s : Service) : Happening → Service
  | .upsert org =>
    { s with
      registry := s.registry.upsert org
      session := { s.session with log := s.session.log ++ Registry.warnings org } }
  | .remove name => { s with registry := (s.registry.remove name).2 }
  | .check m requestId r => ((s.check m requestId r).map (·.2)).getD s
  | .compile source => { s with session := (SessionM.compile source s.session).2 }
  | .clearCache => { s with session := (SessionM.clearCache s.session).2 }
  | .report event => { s with session := (SessionM.report event s.session).2 }
  | .drain => { s with session := { s.session with sink := s.session.sink.drain } }
  | .startTiming id method now =>
    { s with timings := (s.timings.start? id method now).getD s.timings }
  | .clearTiming id now => { s with timings := (s.timings.clear id now).2 }
  | .evict now => { s with timings := (s.timings.evict now).2 }

/-- The services of a grammar that histories lead to. -/
inductive Reachable (grammar : Grammar) : Service → Prop
  | start (name version : String) (timings : Timings) {session : Session} :
    session.cache.Reachable →
    Reachable grammar (.start name version grammar .empty timings session)
  | after {s : Service} (happening : Happening) :
    Reachable grammar s → Reachable grammar (s.after happening)

variable {s : Service} {grammar : Grammar} {m : Moment} {requestId : String} {r : Request}

/-! ## One check -/

/-- Deciding about a request comes to what the record says. -/
theorem outcome_fst (h : s.session.cache.Reachable) (now : UInt64) (r : Request) :
    (s.outcome now r).1 = (s.organizationOf r).map fun org =>
      Subject.decision ⟨r.repository, r.projectId, now⟩ s.grammar org.rules r.actors := by
  unfold outcome
  cases s.organizationOf r with
  | error e => rfl
  | ok org => exact congrArg Except.ok ((yields_resolve _ _ _ _).value h)

theorem outcome_reachable (h : s.session.cache.Reachable) (now : UInt64) (r : Request) :
    (s.outcome now r).2.cache.Reachable := by
  unfold outcome
  cases s.organizationOf r with
  | error e => exact h
  | ok org => exact (yields_resolve _ _ _ _).reachable h

/-- A check whose timing the clock can show answers; of the service it changes what the session
holds, and its own timing. -/
theorem check_of_fits (fits : m.started + s.timings.lifetime < clockLimit) (requestId : String)
    (r : Request) :
    ∃ after, s.check m requestId r = some ((s.outcome m.now r).1, after) ∧
      after.session.cache = (s.outcome m.now r).2.cache ∧ after.registry = s.registry ∧
      after.grammar = s.grammar ∧ after.timings.lifetime = s.timings.lifetime := by
  unfold check Timings.start?
  rw [if_pos fits]
  refine ⟨_, rfl, ?_⟩
  split <;> exact ⟨rfl, rfl, rfl, rfl⟩

theorem check_of_not_fits (late : ¬ m.started + s.timings.lifetime < clockLimit)
    (requestId : String) (r : Request) : s.check m requestId r = none := by
  unfold check Timings.start?
  rw [if_neg late]
  rfl

/-! ## Histories -/

/-- What every happening keeps: how rules are read, that the cache is reachable, how long timings
are kept, and the records that it does not concern. -/
structure Keeps (s s' : Service) (happening : Happening) : Prop where
  grammar : s'.grammar = s.grammar
  lifetime : s'.timings.lifetime = s.timings.lifetime
  cache : s.session.cache.Reachable → s'.session.cache.Reachable
  record {name : String} : ¬ happening.Concerns name → s'.registry.get? name = s.registry.get? name

theorem keeps_check (s : Service) (m : Moment) (requestId : String) (r : Request) :
    Keeps s (s.after (.check m requestId r)) (.check m requestId r) := by
  show Keeps s (((s.check m requestId r).map (·.2)).getD s) _
  by_cases fits : m.started + s.timings.lifetime < clockLimit
  · obtain ⟨s', e, cache, registry, grammar, lifetime⟩ := check_of_fits fits requestId r
    rw [e]
    exact ⟨grammar, lifetime, fun h => cache ▸ outcome_reachable h m.now r, fun _ => by
      rw [← registry]; rfl⟩
  · rw [check_of_not_fits fits]
    exact ⟨rfl, rfl, id, fun _ => rfl⟩

theorem keeps_after (s : Service) (happening : Happening) :
    Keeps s (s.after happening) happening := by
  cases happening with
  | upsert org =>
    exact ⟨rfl, rfl, id, fun spared => (s.registry.get?_upsert org _).trans (if_neg spared)⟩
  | remove gone =>
    exact ⟨rfl, rfl, id, fun spared => (s.registry.get?_remove gone _).trans (if_neg spared)⟩
  | check m requestId r => exact keeps_check s m requestId r
  | compile source => exact ⟨rfl, rfl, (SessionM.yields_compile source).reachable, fun _ => rfl⟩
  | clearCache => exact ⟨rfl, rfl, SessionM.yields_clearCache.reachable, fun _ => rfl⟩
  | report event => exact ⟨rfl, rfl, (SessionM.yields_report event).reachable, fun _ => rfl⟩
  | drain => exact ⟨rfl, rfl, id, fun _ => rfl⟩
  | startTiming id method now =>
    refine ⟨rfl, ?_, fun h => h, fun _ => rfl⟩
    show ((s.timings.start? id method now).getD s.timings).lifetime = _
    unfold Timings.start?
    split <;> rfl
  | clearTiming id now => exact ⟨rfl, rfl, fun h => h, fun _ => rfl⟩
  | evict now => exact ⟨rfl, rfl, fun h => h, fun _ => rfl⟩

theorem Reachable.grammar_eq (h : s.Reachable grammar) : s.grammar = grammar := by
  induction h with
  | start => rfl
  | after happening _ ih => exact (keeps_after _ happening).grammar.trans ih

theorem Reachable.cache (h : s.Reachable grammar) : s.session.cache.Reachable := by
  induction h with
  | start _ _ _ h => exact h
  | after happening _ ih => exact (keeps_after _ happening).cache ih

theorem Reachable.foldl (h : s.Reachable grammar) (happenings : List Happening) :
    (happenings.foldl Service.after s).Reachable grammar := by
  induction happenings generalizing s with
  | nil => exact h
  | cons happening happenings ih => exact ih (h.after happening)

/-- Happenings that do not concern an organization keep its record. -/
theorem get?_foldl {name : String} (happenings : List Happening)
    (spared : ∀ happening ∈ happenings, ¬ happening.Concerns name) (s : Service) :
    (happenings.foldl after s).registry.get? name = s.registry.get? name := by
  induction happenings generalizing s with
  | nil => rfl
  | cons happening happenings ih =>
    rw [List.foldl_cons, ih (fun h hh => spared h (List.mem_cons_of_mem _ hh)),
      (keeps_after s happening).record (spared happening List.mem_cons_self)]

theorem lifetime_foldl (happenings : List Happening) (s : Service) :
    (happenings.foldl after s).timings.lifetime = s.timings.lifetime := by
  induction happenings generalizing s with
  | nil => rfl
  | cons happening happenings ih => rw [List.foldl_cons, ih, (keeps_after s happening).lifetime]

/-! ## The answer -/

/-- What a check answers, by the record of the organization alone. -/
def verdict (grammar : Grammar) (r : Request) (record : Option Organization) :
    Except CheckError Decision :=
  match r.organizationName, record with
  | none, _ => .error (.noOrganization r.repository)
  | some name, none => .error (.unknownOrganization name)
  | some _, some org =>
    .ok (Subject.decision ⟨r.repository, r.projectId, 0⟩ grammar org.rules r.actors).untimed

/-- A check answers by the record of the organization alone, but for the times of events. -/
theorem check_verdict (h : s.session.cache.Reachable)
    (fits : m.started + s.timings.lifetime < clockLimit) (requestId : String) (r : Request) :
    (s.check m requestId r).map (fun p => p.1.map Decision.untimed) =
      some (verdict s.grammar r (r.organizationName.bind s.registry.get?)) := by
  obtain ⟨s', e, -⟩ := check_of_fits fits requestId r
  rw [e, Option.map_some, outcome_fst h]
  unfold organizationOf organization verdict
  cases r.organizationName with
  | none => rfl
  | some name =>
    dsimp only [Option.bind_some]
    cases s.registry.get? name with
    | none => rfl
    | some org =>
      exact congrArg (some ∘ Except.ok) (Subject.decision_untimed _ _ m.now 0 _ _ _)

theorem check_answer (h : s.Reachable grammar) (fits : m.started + s.timings.lifetime < clockLimit)
    (requestId : String) (r : Request) :
    (s.check m requestId r).map (fun p => p.1.map Decision.untimed) =
      some (verdict grammar r (r.organizationName.bind s.registry.get?)) :=
  h.grammar_eq ▸ check_verdict h.cache fits requestId r

/-- Two services of one grammar that hold the same record of the organization of a request, or
both none, answer it alike whatever has happened to them, but for the times of events; and what
happens to a service without concerning that organization does not change its answer. -/
theorem check_history_independent {s₁ s₂ : Service} (h₁ : s₁.Reachable grammar)
    (h₂ : s₂.Reachable grammar) (r : Request)
    (same : r.organizationName.bind s₁.registry.get? = r.organizationName.bind s₂.registry.get?)
    {m₁ m₂ : Moment} (fits₁ : m₁.started + s₁.timings.lifetime < clockLimit)
    (fits₂ : m₂.started + s₂.timings.lifetime < clockLimit) (id₁ id₂ : String) :
    ∃ answer, (s₁.check m₁ id₁ r).map (fun p => p.1.map Decision.untimed) = some answer ∧
      (s₂.check m₂ id₂ r).map (fun p => p.1.map Decision.untimed) = some answer ∧
      ∀ happenings : List Happening,
        (∀ happening ∈ happenings, ∀ name, r.organizationName = some name →
          ¬ happening.Concerns name) →
        ((happenings.foldl after s₁).check m₁ id₂ r).map (fun p => p.1.map Decision.untimed) =
          some answer := by
  refine ⟨_, check_answer h₁ fits₁ id₁ r, ?_, fun happenings spared => ?_⟩
  · rw [same]
    exact check_answer h₂ fits₂ id₂ r
  · have fits : m₁.started + (happenings.foldl after s₁).timings.lifetime < clockLimit := by
      rw [lifetime_foldl]
      exact fits₁
    rw [check_answer (h₁.foldl happenings) fits id₂ r]
    cases e : r.organizationName with
    | none => rfl
    | some name =>
      rw [Option.bind_some, Option.bind_some,
        get?_foldl happenings fun happening hh => spared happening hh name e]

/-- A record whose rules exempt robots. -/
def acme : Organization := ⟨"Acme", some (.ofList [("re:^wid", "re:bot$;*"), ("re:(", "*;*;*")])⟩

/-- A check of a login. -/
def acmeRequest (login : String) : Request :=
  { repository := "Acme/widgets", actors := [some (.ofIdentity (some login) none none)] }

/-- A service that has only been given the record. -/
def quiet : Service :=
  [Happening.upsert acme].foldl after
    (start "q" "1" .extended .empty (.ofSeconds 300) ⟨.disabled, .logging, []⟩)

/-- A service that has answered by other records, and has the same record now. -/
def busy : Service :=
  [Happening.upsert ⟨"Acme", some (.ofList [("*", "*;*;*")])⟩, .upsert ⟨"other", none⟩,
    .check ⟨5, 6, 7⟩ "x" (acmeRequest "bob"), .compile "(", .remove "other",
    .upsert acme].foldl after
      (start "b" "1" .extended .empty (.ofSeconds 300) ⟨.fresh, .recording [], []⟩)

theorem check_history_independent_acme :
    let r := acmeRequest "robot"
    let early : Moment := ⟨10, 20, 1⟩
    let late : Moment := ⟨30, 40, 2⟩
    let later : Service :=
      [Happening.upsert ⟨"other", none⟩, .compile "(", .remove "other"].foldl after quiet
    let answer (s : Service) (m : Moment) (id : String) :=
      (s.check m id r).map fun p => p.1.map Decision.untimed
    quiet.Reachable .extended ∧ busy.Reachable .extended ∧
    r.organizationName.bind quiet.registry.get? = r.organizationName.bind busy.registry.get? ∧
    early.started + quiet.timings.lifetime < clockLimit ∧
    late.started + busy.timings.lifetime < clockLimit ∧
    answer quiet early "x" = answer busy late "y" ∧
    answer later early "y" = answer busy late "y" := by
  intro r early late later answer
  have h₁ : quiet.Reachable .extended := (Reachable.start _ _ _ .disabled).foldl _
  have h₂ : busy.Reachable .extended := (Reachable.start _ _ _ .fresh).foldl _
  have named : r.organizationName = some "Acme" := by decide +kernel
  have same : r.organizationName.bind quiet.registry.get? =
      r.organizationName.bind busy.registry.get? := by
    rw [named]
    exact ((Registry.get?_upsert _ acme _).trans (if_pos rfl)).trans
      ((Registry.get?_upsert _ acme _).trans (if_pos rfl)).symm
  have fits₁ : early.started + quiet.timings.lifetime < clockLimit := by
    rw [quiet, lifetime_foldl]
    decide +kernel
  have fits₂ : late.started + busy.timings.lifetime < clockLimit := by
    rw [busy, lifetime_foldl]
    decide +kernel
  -- The names differ in length, whatever the lower case of their letters is.
  have apart : Text.lowercase "Acme" ≠ Text.lowercase "other" := fun e =>
    absurd (congrArg List.length (String.ofList_injective e)) (by decide +kernel)
  obtain ⟨_, e₁, e₂, e₃⟩ := check_history_independent h₁ h₂ r same fits₁ fits₂ "x" "y"
  refine ⟨h₁, h₂, same, fits₁, fits₂, e₁.trans e₂.symm, (e₃ _ ?_).trans e₂.symm⟩
  rintro happening mem name e
  rw [named] at e
  cases e
  simp only [List.mem_cons, List.not_mem_nil, or_false] at mem
  rcases mem with rfl | rfl | rfl
  · exact apart
  · exact not_false
  · exact apart

end Service

end ClaExemption
