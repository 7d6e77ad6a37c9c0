import ClaExemption.Proofs.Service.History

/-!
# Services that answer alike

`Twin` services read rules alike and hold the same records. They give one answer
to a request at one time (`Twin.check`), and at two times answers that differ in
the times of events alone (`Twin.untimed_eq`). A service that a check leaves
`Follows` the one that it was made of (`Follows.check`).
-/

namespace ClaExemption.Service

/-- A service that reads rules as another one does, and holds the same records. -/
structure Twin (s t : Service) : Prop where
  grammar : t.grammar = s.grammar
  record (name : String) : t.registry.get? name = s.registry.get? name

/-- A twin that times requests alike, and whose cache works if that of the other one does. -/
structure Follows (s t : Service) : Prop extends Twin s t where
  lifetime : t.timings.lifetime = s.timings.lifetime
  cache : s.session.cache.Reachable → t.session.cache.Reachable

variable {s t u : Service} {m : Moment} {requestId : String} {r : Request}

theorem Twin.refl (s : Service) : Twin s s := ⟨rfl, fun _ => rfl⟩

theorem Twin.trans (h : Twin s t) (h' : Twin t u) : Twin s u :=
  ⟨h'.grammar.trans h.grammar, fun name => (h'.record name).trans (h.record name)⟩

theorem Twin.symm (h : Twin s t) : Twin t s :=
  ⟨h.grammar.symm, fun name => (h.record name).symm⟩

theorem Follows.refl (s : Service) : Follows s s := ⟨.refl s, rfl, id⟩

theorem Follows.trans (h : Follows s t) (h' : Follows t u) : Follows s u :=
  ⟨h.toTwin.trans h'.toTwin, h'.lifetime.trans h.lifetime,
    fun reachable => h'.cache (h.cache reachable)⟩

theorem follows_log (s : Service) (entry : Entry) : Follows s (s.log entry) :=
  ⟨⟨rfl, fun _ => rfl⟩, rfl, id⟩

theorem Twin.organizationOf_eq (twin : Twin s t) (r : Request) :
    t.organizationOf r = s.organizationOf r := by
  unfold organizationOf organization
  simp only [twin.record]

/-- Twins come to one outcome. -/
theorem Twin.outcome_eq (twin : Twin s t) (hs : s.session.cache.Reachable)
    (ht : t.session.cache.Reachable) (now : UInt64) (r : Request) :
    (t.outcome now r).1 = (s.outcome now r).1 := by
  rw [outcome_fst ht, outcome_fst hs, twin.organizationOf_eq, twin.grammar]

/-- A service that follows another one answers a check as the other one does, and so does the
service that the check leaves. -/
theorem Follows.check (follows : Follows s t) (reachable : s.session.cache.Reachable)
    (fits : m.started + s.timings.lifetime < clockLimit) (requestId : String) (r : Request) :
    ∃ answer after after', s.check m requestId r = some (answer, after') ∧
      t.check m requestId r = some (answer, after) ∧ Follows s after := by
  obtain ⟨after', e', -⟩ := check_of_fits fits requestId r
  obtain ⟨after, e, cache, registry, grammar, lifetime⟩ :=
    check_of_fits (follows.lifetime ▸ fits) requestId r
  have same := follows.outcome_eq reachable (follows.cache reachable) m.now r
  refine ⟨_, after, after', e', same ▸ e, follows.trans ⟨⟨grammar, fun name => ?_⟩, lifetime, ?_⟩⟩
  · rw [registry]
  · exact fun h => cache ▸ outcome_reachable h m.now r

/-- What a check has answered is the verdict on its request, but for the times of events. -/
theorem verdict_of_check (reachable : s.session.cache.Reachable)
    {answer : Except CheckError Decision} {after : Service}
    (h : s.check m requestId r = some (answer, after)) :
    answer.map Decision.untimed =
      verdict s.grammar r (r.organizationName.bind s.registry.get?) := by
  have fits : m.started + s.timings.lifetime < clockLimit := by
    by_contra late
    rw [check_of_not_fits late] at h
    cases h
  have verdict := check_verdict reachable fits requestId r
  rwa [h, Option.map_some, Option.some.injEq] at verdict

/-- Twins answer alike at any two times, but for the times of events. -/
theorem Twin.untimed_eq (twin : Twin s t) (hs : s.session.cache.Reachable)
    (ht : t.session.cache.Reachable) {m' : Moment} {requestId' : String}
    {answer answer' : Except CheckError Decision} {after after' : Service}
    (h : s.check m requestId r = some (answer, after))
    (h' : t.check m' requestId' r = some (answer', after')) :
    answer.map Decision.untimed = answer'.map Decision.untimed := by
  have records : t.registry.get? = s.registry.get? := funext twin.record
  rw [verdict_of_check hs h, verdict_of_check ht h', twin.grammar, records]

end ClaExemption.Service
