import ClaExemption.Proofs.Resolve.Partition

/-!
# Sharing a sink

Resolvers that report to one recording sink, each through a cache of its own or
one in common. `Trail.Act` is what can be asked of them and of the sink, and
`Trail.run` does one thing after another. A step keeps the sink in line with
what has come out so far (`Trail.step_keeps`), and so does a run
(`Trail.run_keeps`): nothing is reported but the events of decisions, and no
event is lost or kept twice (`Trail.audit_complete`).
-/

namespace ClaExemption

/-- The entry that applied is one of the rules, and there is one event for each exempt actor, in
their order: of the full name of the repository and the value as it stands in the rules. Without an
entry that applied there are neither. -/
def Decision.Audited (d : Decision) (s : Subject) (rules : Option RuleMap) : Prop :=
  match d.resolved with
  | none => d.allowlisted = [] ∧ d.events = []
  | some e =>
    (∃ m, rules = some m ∧ m.get? e.key = some e.value) ∧
    d.events = d.allowlisted.map fun a =>
      { kind := .bypass
        data := { repo := s.orgRepo, config := e.value, actor := a.describe }
        projectId := s.projectId
        timestamp := s.now }

theorem Decision.Audited.events_eq_nil {d : Decision} {s : Subject} {rules : Option RuleMap}
    (h : d.Audited s rules) (nobody : d.allowlisted = []) : d.events = [] := by
  unfold Audited at h
  split at h
  · exact h.2
  · rw [h.2, nobody, List.map_nil]

theorem Subject.decision_audited (s : Subject) (grammar : Grammar) (rules : Option RuleMap)
    (actors : List (Option Actor)) : (s.decision grammar rules actors).Audited s rules := by
  unfold Subject.decision
  cases applies : s.entry rules with
  | none => exact ⟨rfl, rfl⟩
  | some e =>
    refine ⟨?_, ?_⟩
    · obtain ⟨m, rfl, selected⟩ := Option.bind_eq_some_iff.1 applies
      exact ⟨m, rfl, (RuleMap.held_of_selected selected).1⟩
    · simp only [Decision.extend, List.nil_append, List.map_map]
      rfl

/-- The caches that resolvers compile through, the sink that all of them report to, and the log. -/
structure Trail where
  caches : Nat → PatternCache
  sink : Sink
  log : Log

namespace Trail

/-- What can be asked of a resolver, which has a grammar and one of the caches, and of the sink. -/
inductive Act where
  | resolve (grammar : Grammar) (cache : Nat) (s : Subject) (rules : Option RuleMap)
    (actors : List (Option Actor))
  | resolveFor (grammar : Grammar) (cache : Nat) (s : Subject) (org : Organization)
    (actors : List (Option Actor))
  | events
  | size
  | drain

/-- The subject and the rules of an act that decides about actors. -/
def Act.asks : Act → Option (Subject × Option RuleMap)
  | .resolve _ _ s rules _ => some (s, rules)
  | .resolveFor _ _ s org _ => some (s, org.rules)
  | _ => none

/-- What an act comes back with. -/
inductive Outcome where
  | decided (d : Decision)
  | events (kept : List AuditEvent)
  | size (n : Nat)
  | drained (taken : List AuditEvent)

namespace Outcome

/-- The events of the decision. -/
def reported : Outcome → List AuditEvent
  | .decided d => d.events
  | _ => []

/-- The events taken out of the sink. -/
def taken : Outcome → List AuditEvent
  | .drained taken => taken
  | _ => []

/-- Whether the sink was emptied. -/
def isDrain : Outcome → Bool
  | .drained _ => true
  | _ => false

end Outcome

/-- The events of the decisions after the last draining, in their order. -/
def pending (outcomes : List Outcome) : List AuditEvent :=
  (outcomes.reverse.takeWhile (!·.isDrain)).reverse.flatMap Outcome.reported

/-- Decides through one of the caches. -/
def decide (t : Trail) (cache : Nat) (x : SessionM Decision) : Outcome × Trail :=
  let (d, s) := x ⟨t.caches cache, t.sink, t.log⟩
  (.decided d, ⟨fun i => if i = cache then s.cache else t.caches i, s.sink, s.log⟩)

/-- Does one thing. -/
def step (t : Trail) : Act → Outcome × Trail
  | .resolve grammar cache s rules actors =>
    t.decide cache (ClaExemption.resolve grammar s rules actors)
  | .resolveFor grammar cache s org actors =>
    t.decide cache (ClaExemption.resolveFor grammar s org actors)
  | .events => (.events t.sink.events, t)
  | .size => (.size t.sink.events.length, t)
  | .drain => (.drained t.sink.events, { t with sink := t.sink.drain })

/-- Does one thing after another. -/
def run (t : Trail) : List Act → List Outcome × Trail
  | [] => ([], t)
  | a :: acts =>
    let (o, t) := t.step a
    let (os, t) := t.run acts
    (o :: os, t)

/-- The caches are reachable, and the sink keeps the given events. -/
structure Keeps (t : Trail) (kept : List AuditEvent) : Prop where
  caches (i : Nat) : (t.caches i).Reachable
  sink : t.sink = .recording kept

variable {t : Trail} {kept : List AuditEvent}

/-! ## One step -/

theorem foldl_push (events kept : List AuditEvent) :
    events.foldl Sink.push (.recording kept) = .recording (kept ++ events) := by
  induction events generalizing kept with
  | nil => rw [List.append_nil]; rfl
  | cons event events ih =>
    rw [List.foldl_cons, Sink.push, ih, List.append_assoc, List.singleton_append]

/-- Deciding reports what the decision holds. -/
theorem decide_keeps (h : t.Keeps kept) (cache : Nat) {x : SessionM Decision} {d : Decision}
    (hx : x.Yields d d.events) :
    (t.decide cache x).1 = .decided d ∧ (t.decide cache x).2.Keeps (kept ++ d.events) := by
  have reachable := h.caches cache
  refine ⟨congrArg Outcome.decided (hx.value reachable), fun i => ?_, ?_⟩
  · show (if i = cache then _ else t.caches i).Reachable
    split
    · exact hx.reachable reachable
    · exact h.caches i
  · rw [← foldl_push, ← h.sink]
    exact hx.sink reachable

/-- What comes out of an act while the sink keeps the given events. -/
def Act.outcome (kept : List AuditEvent) : Act → Outcome
  | .resolve grammar _ s rules actors => .decided (s.decision grammar rules actors)
  | .resolveFor grammar _ s org actors => .decided (s.decision grammar org.rules actors)
  | .events => .events kept
  | .size => .size kept.length
  | .drain => .drained kept

/-- What the sink keeps after something has come out. -/
def Outcome.after (kept : List AuditEvent) : Outcome → List AuditEvent
  | .decided d => kept ++ d.events
  | .events _ => kept
  | .size _ => kept
  | .drained _ => []

theorem step_keeps (h : t.Keeps kept) (a : Act) :
    (t.step a).1 = a.outcome kept ∧ (t.step a).2.Keeps ((a.outcome kept).after kept) := by
  have same : t.sink.events = kept := congrArg Sink.events h.sink
  cases a with
  | resolve grammar cache s rules actors => exact decide_keeps h cache (yields_resolve s _ _ _)
  | resolveFor grammar cache s org actors => exact decide_keeps h cache (yields_resolve s _ _ _)
  | events => exact ⟨congrArg Outcome.events same, h⟩
  | size => exact ⟨congrArg (fun es : List AuditEvent => Outcome.size es.length) same, h⟩
  | drain => exact ⟨congrArg Outcome.drained same, h.caches, congrArg Sink.drain h.sink⟩

/-- An act that asks for a decision gets one, with its events. -/
theorem Act.outcome_of_asks {a : Act} {s : Subject} {rules : Option RuleMap}
    (asks : a.asks = some (s, rules)) (kept : List AuditEvent) :
    ∃ d, a.outcome kept = .decided d ∧ d.Audited s rules := by
  cases a with
  | resolve grammar cache s' rules' actors =>
    cases asks
    exact ⟨_, rfl, s.decision_audited grammar rules actors⟩
  | resolveFor grammar cache s' org actors =>
    cases asks
    exact ⟨_, rfl, s.decision_audited grammar org.rules actors⟩
  | events | size | drain => cases asks

/-- A decision comes out with its events. -/
theorem Act.audited_of_outcome {a : Act} {d : Decision} (out : a.outcome kept = .decided d) :
    ∃ s rules, d.Audited s rules := by
  cases a with
  | resolve grammar cache s rules actors =>
    exact ⟨s, rules, Outcome.decided.inj out ▸ s.decision_audited grammar rules actors⟩
  | resolveFor grammar cache s org actors =>
    exact ⟨s, org.rules, Outcome.decided.inj out ▸ s.decision_audited grammar org.rules actors⟩
  | events | size | drain => cases out

/-- What is taken out of the sink was kept in it, and what it keeps then has been reported. -/
theorem Act.taken_append_after (a : Act) (kept : List AuditEvent) :
    (a.outcome kept).taken ++ (a.outcome kept).after kept =
      kept ++ (a.outcome kept).reported := by
  cases a with
  | resolve | resolveFor | drain => rfl
  | events | size => exact kept.append_nil.symm

/-! ## Runs -/

theorem pending_concat (outcomes : List Outcome) (o : Outcome) :
    pending (outcomes ++ [o]) = o.after (pending outcomes) := by
  unfold pending
  rw [List.reverse_append, List.reverse_singleton, List.singleton_append, List.takeWhile_cons]
  cases o with
  | drained taken => rfl
  | decided | events | size =>
    simp only [Outcome.isDrain, Bool.not_false, if_true, List.reverse_cons, List.flatMap_append,
      List.flatMap_singleton, Outcome.after, Outcome.reported, List.append_nil]

theorem run_concat (t : Trail) (acts : List Act) (a : Act) :
    t.run (acts ++ [a]) =
      ((t.run acts).1 ++ [((t.run acts).2.step a).1], ((t.run acts).2.step a).2) := by
  induction acts generalizing t with
  | nil => rfl
  | cons b acts ih =>
    show (_ :: ((t.step b).2.run (acts ++ [a])).1, ((t.step b).2.run (acts ++ [a])).2) = _
    rw [ih]
    rfl

/-- After a run the sink keeps the events of the decisions since it was last emptied. -/
theorem run_keeps (h : t.Keeps []) (acts : List Act) :
    (t.run acts).2.Keeps (pending (t.run acts).1) := by
  induction acts using List.reverseRecOn with
  | nil => exact h
  | append_singleton acts a ih =>
    obtain ⟨out, keeps⟩ := step_keeps ih a
    rw [run_concat, pending_concat, out]
    exact keeps

/-- What has been taken out of the sink and what it still keeps are the events of all decisions. -/
theorem run_taken (h : t.Keeps []) (acts : List Act) :
    (t.run acts).1.flatMap Outcome.taken ++ pending (t.run acts).1 =
      (t.run acts).1.flatMap Outcome.reported := by
  induction acts using List.reverseRecOn with
  | nil => rfl
  | append_singleton acts a ih =>
    obtain ⟨out, -⟩ := step_keeps (run_keeps h acts) a
    rw [run_concat, pending_concat, out, List.flatMap_append, List.flatMap_append,
      List.flatMap_singleton, List.flatMap_singleton, List.append_assoc, a.taken_append_after,
      ← List.append_assoc, ih]

/-- What comes out of an act that asks for a decision is one, with its events. -/
def Act.Answered (a : Act) (o : Outcome) : Prop :=
  ∀ s rules, a.asks = some (s, rules) → ∃ d, o = .decided d ∧ d.Audited s rules

theorem run_answered (h : t.Keeps kept) (acts : List Act) :
    List.Forall₂ Act.Answered acts (t.run acts).1 := by
  induction acts generalizing t kept with
  | nil => exact .nil
  | cons a acts ih =>
    obtain ⟨out, keeps⟩ := step_keeps h a
    refine .cons (fun s rules asks => ?_) (ih keeps)
    obtain ⟨d, decided, audited⟩ := a.outcome_of_asks asks kept
    exact ⟨d, out.trans decided, audited⟩

/-- Over any run of resolvers that share a new sink, whoever looks at the sink: each decision has
one event for each exempt actor; the sink keeps the events of the decisions since it was last
emptied, in their order, and shows, counts and hands out just those; what has been handed out and
what is left are the events of all decisions, each once; and a decision that exempts nobody leaves
the sink as it is. -/
theorem audit_complete (acts : List Act) (caches : ∀ i, (t.caches i).Reachable)
    (new : t.sink = .recording []) :
    let outcomes := (t.run acts).1
    let now := (t.run acts).2
    List.Forall₂ Act.Answered acts outcomes ∧
    now.sink = .recording (pending outcomes) ∧
    (now.step .events).1 = .events (pending outcomes) ∧
    (now.step .size).1 = .size (pending outcomes).length ∧
    (now.step .drain).1 = .drained (pending outcomes) ∧
    outcomes.flatMap Outcome.taken ++ now.sink.events = outcomes.flatMap Outcome.reported ∧
    ∀ a d, (now.step a).1 = .decided d →
      (now.step a).2.sink = .recording (pending outcomes ++ d.events) ∧
      (d.allowlisted = [] → (now.step a).2.sink = now.sink) := by
  intro outcomes now
  have start : t.Keeps [] := ⟨caches, new⟩
  have keeps : now.Keeps (pending outcomes) := run_keeps start acts
  refine ⟨run_answered start acts, keeps.sink, (step_keeps keeps .events).1,
    (step_keeps keeps .size).1, (step_keeps keeps .drain).1, ?_, fun a d decided => ?_⟩
  · rw [keeps.sink]
    exact run_taken start acts
  · obtain ⟨out, after⟩ := step_keeps keeps a
    rw [← out, decided] at after
    refine ⟨after.sink, fun nobody => ?_⟩
    obtain ⟨s, rules, audited⟩ := Act.audited_of_outcome (out.symm.trans decided)
    rw [after.sink, keeps.sink, Outcome.after, audited.events_eq_nil nobody, List.append_nil]

/-- Rules that exempt one login. -/
def bobRules : RuleMap := .ofList [("*", " bob;;")]

/-- Two resolvers decide, each in its own grammar; the sink is emptied in between. -/
def bobActs : List Act :=
  [.resolve .extended 0 ⟨"acme/widgets", "p", 1⟩ (some bobRules)
      [some (.ofIdentity (some "bob") none none), none, some (.ofIdentity (some "eve") none none)],
    .drain, .size,
    .resolveFor .simple 1 ⟨"acme/gears", "q", 2⟩ ⟨"acme", some (.ofList [("re:^g", "bob")])⟩
      [some (.ofIdentity (some "eve") none none), some (.ofIdentity (some "bob") none none)],
    .resolve .extended 1 ⟨"acme/widgets", "p", 3⟩ (some bobRules)
      [some (.ofIdentity (some "eve") none none)],
    .events]

theorem audit_complete_bob :
    let t : Trail := ⟨fun i => if i = 0 then .fresh else .disabled, .recording [], []⟩
    let bob := "id='(null)',login='bob',username='(null)',email='(null)'"
    let first : AuditEvent := ⟨.bypass, ⟨"acme/widgets", " bob;;", bob⟩, "p", 1⟩
    let second : AuditEvent := ⟨.bypass, ⟨"acme/gears", "bob", bob⟩, "q", 2⟩
    (∀ i, (t.caches i).Reachable) ∧ t.sink = .recording [] ∧
    (t.run bobActs).2.sink = .recording [second] ∧
    (t.run bobActs).1.flatMap Outcome.taken = [first] ∧
    (t.run bobActs).1.flatMap Outcome.reported = [first, second] := by
  intro t bob first second
  have caches : ∀ i, (t.caches i).Reachable := fun i => by
    show (if i = 0 then PatternCache.fresh else PatternCache.disabled).Reachable
    split
    · exact .fresh
    · exact .disabled
  obtain ⟨-, sink, -, -, -, whole, -⟩ := audit_complete bobActs caches rfl
  have left : pending (t.run bobActs).1 = [second] := by decide +kernel
  have taken : (t.run bobActs).1.flatMap Outcome.taken = [first] := by decide +kernel
  refine ⟨caches, rfl, sink.trans (congrArg Sink.recording left), taken, ?_⟩
  rw [← whole, taken, sink, left]
  rfl

end Trail

end ClaExemption
