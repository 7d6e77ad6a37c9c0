import ClaExemption.Proofs.Select.Precedence
import ClaExemption.Resolve

/-!
# How actors are parted

`Decision.extend` says, without a session, how a decision grows by those about
further actors, and `Subject.decision` what `resolve` comes to
(`yields_resolve`). `resolve_partition` states it through `Grammar.Exempts`: the
exempt actors are marked as authorized, the others left as they are, both in
their order.
-/

namespace ClaExemption

/-- The actor marked as covered. -/
def Actor.authorize (a : Actor) : Actor := { a with authorized := true }

/-- A decision extended by those about further actors. -/
def Decision.extend (d : Decision) (s : Subject) (value : String) (rule : Rule)
    (actors : List Actor) : Decision :=
  { d with
    stillMissing := d.stillMissing ++ actors.filter fun a => !rule.admits a
    allowlisted := d.allowlisted ++ (actors.filter fun a => rule.admits a).map Actor.authorize
    events := d.events ++ (actors.filter fun a => rule.admits a).map (s.event value) }

/-- The entry that applies to a subject. -/
def Subject.entry (s : Subject) (rules : Option RuleMap) : Option Selected :=
  rules.bind fun m => m.selected (repositoryName s.orgRepo)

/-- The decision about the actors of a subject. -/
def Subject.decision (s : Subject) (grammar : Grammar) (rules : Option RuleMap)
    (actors : List (Option Actor)) : Decision :=
  match s.entry rules with
  | none => .passthrough (actors.filterMap id)
  | some e =>
    Decision.extend { resolved := some e } s e.value (.parse grammar e.value) (actors.filterMap id)

/-- The event without the time at which it happened. -/
def AuditEvent.untimed (e : AuditEvent) : AuditEvent := { e with timestamp := 0 }

/-- The decision without the times of its events. -/
def Decision.untimed (d : Decision) : Decision := { d with events := d.events.map .untimed }

/-- Only the times of events tell decisions at two times apart. -/
theorem Subject.decision_untimed (orgRepo projectId : String) (now now' : UInt64)
    (grammar : Grammar) (rules : Option RuleMap) (actors : List (Option Actor)) :
    (Subject.decision ⟨orgRepo, projectId, now⟩ grammar rules actors).untimed =
      (Subject.decision ⟨orgRepo, projectId, now'⟩ grammar rules actors).untimed := by
  unfold Subject.decision Subject.entry Decision.untimed Decision.extend
  cases rules.bind fun m => m.selected (repositoryName orgRepo) with
  | none => rfl
  | some e =>
    simp only [List.nil_append, List.map_map]
    rfl

theorem Decision.extend_nil (d : Decision) (s : Subject) (value : String) (rule : Rule) :
    d.extend s value rule [] = d := by
  unfold Decision.extend
  simp only [List.filter_nil, List.map_nil, List.append_nil]

theorem Decision.extend_extend (d : Decision) (s : Subject) (value : String) (rule : Rule)
    (as bs : List Actor) :
    (d.extend s value rule as).extend s value rule bs = d.extend s value rule (as ++ bs) := by
  unfold Decision.extend
  simp only [List.filter_append, List.map_append, List.append_assoc]

open SessionM

variable (s : Subject) (value : String) (rule : Rule)

theorem yields_decideActor (d : Decision) (a : Actor) :
    Yields (decideActor s value rule d a) (d.extend s value rule [a])
      (([a].filter fun a => rule.admits a).map (s.event value)) := by
  unfold decideActor Decision.extend
  refine (yields_logEntry _).bind_nil ((rule.yields_matchActor a).bind_nil ?_)
  cases e : rule.admits a with
  | true =>
    simp only [List.filter_cons, List.filter_nil, e, Bool.not_true, Bool.false_eq_true, if_true,
      if_false, List.map_cons, List.map_nil, List.append_nil]
    exact (yields_logEntry _).bind_nil ((yields_report _).bind (.pure _))
  | false =>
    simp only [List.filter_cons, List.filter_nil, e, Bool.not_false, Bool.false_eq_true, if_true,
      if_false, List.map_nil, List.append_nil]
    exact .pure _

theorem yields_decideActors (d : Decision) (actors : List Actor) :
    Yields (decideActors s value rule d actors) (d.extend s value rule actors)
      ((actors.filter fun a => rule.admits a).map (s.event value)) := by
  induction actors generalizing d with
  | nil =>
    rw [Decision.extend_nil]
    exact .pure d
  | cons a actors ih =>
    have step := (yields_decideActor s value rule d a).bind
      (f := fun d => decideActors s value rule d actors) (ih (d.extend s value rule [a]))
    rwa [Decision.extend_extend, List.singleton_append, ← List.map_append, ← List.filter_append,
      List.singleton_append] at step

/-- Resolving comes to the decision and reports its events, whatever has been compiled before. -/
theorem yields_resolve (grammar : Grammar) (rules : Option RuleMap) (actors : List (Option Actor)) :
    Yields (resolve grammar s rules actors) (s.decision grammar rules actors)
      (s.decision grammar rules actors).events := by
  unfold resolve Subject.decision Subject.entry
  cases rules with
  | none => exact (yields_logEntry _).bind_nil (.pure _)
  | some m =>
    refine (yields_selectEntry m _).bind_nil ?_
    rw [Option.bind_some]
    cases m.selected (repositoryName s.orgRepo) with
    | none => exact (yields_logEntry _).bind_nil (.pure _)
    | some e => exact (yields_logEntry _).bind_nil (yields_decideActors s e.value _ _ _)

theorem filter_exempts (grammar : Grammar) (actors : List Actor) :
    actors.filter (fun a => grammar.Exempts value a) =
      actors.filter fun a => (Rule.parse grammar value).admits a :=
  List.filter_congr fun a _ => by rw [Bool.decide_congr Grammar.exempts_iff, Bool.decide_eq_true]

theorem filter_not_exempts (grammar : Grammar) (actors : List Actor) :
    actors.filter (fun a => ¬ grammar.Exempts value a) =
      actors.filter fun a => !(Rule.parse grammar value).admits a :=
  List.filter_congr fun a _ => by
    rw [decide_not, Bool.decide_congr Grammar.exempts_iff, Bool.decide_eq_true]

/-- Without an entry that applies, all actors that are there still have to sign. Else the value of
the entry parts them into those it exempts and the others, in their order; the exempt ones are
marked as authorized, with an event for each, and the others are left as they are. -/
theorem resolve_partition (grammar : Grammar) (s : Subject) (rules : Option RuleMap)
    (actors : List (Option Actor)) {session : Session} (h : session.cache.Reachable) :
    let present := actors.filterMap id
    let decision := (resolve grammar s rules actors session).1
    let entry := rules.bind fun m => (selectEntry m (repositoryName s.orgRepo) session).1
    (∀ m, rules = some m → m.Selects (repositoryName s.orgRepo) entry) ∧
    (entry = none → decision = ⟨present, [], none, []⟩) ∧
    ∀ e, entry = some e →
      decision.resolved = some e ∧
      decision.stillMissing = present.filter (fun a => ¬ grammar.Exempts e.value a) ∧
      decision.allowlisted =
        (present.filter fun a => grammar.Exempts e.value a).map (fun a =>
          { a with authorized := true }) ∧
      decision.events =
        (present.filter fun a => grammar.Exempts e.value a).map (s.event e.value) := by
  intro present decision entry
  have hdecision : decision = s.decision grammar rules actors :=
    (yields_resolve s grammar rules actors).value h
  have hentry : entry = s.entry rules := by
    cases rules with
    | none => rfl
    | some m => exact (yields_selectEntry m _).value h
  refine ⟨?_, ?_, ?_⟩
  · rintro m rfl
    rw [hentry]
    exact m.selects_selected _
  · intro none
    rw [hdecision, Subject.decision, ← hentry, none]
    rfl
  · intro e some
    rw [hdecision, Subject.decision, ← hentry, some, filter_exempts, filter_not_exempts]
    exact ⟨rfl, rfl, rfl, rfl⟩

/-- Rules whose first alternative wants neither email nor name, and whose second one wants a login
that ends in `bot`. -/
def widgetRules : RuleMap := .ofList [("re:^wid", " [bob || re:bot$;*] "), ("*", "*;*;*")]

/-- Two whom the rules exempt, one whom they do not, and one who is missing. -/
def widgetActors : List (Option Actor) :=
  [some (.ofIdentity (some "bob") none none), none,
    some { Actor.ofIdentity (some "bob") (some "b@x") none with authorized := true },
    some (.ofIdentity (some "robot") (some "r@x") none)]

theorem resolve_partition_widgets :
    let session : Session := ⟨(PatternCache.fresh.compile "(").2, .recording [], []⟩
    let decision := (resolve .extended ⟨"acme/widgets", "p", 0⟩ (some widgetRules) widgetActors
      session).1
    session.cache.Reachable ∧
    decision.resolved = some ⟨"re:^wid", " [bob || re:bot$;*] ", .regex⟩ ∧
    decision.allowlisted =
      [(Actor.ofIdentity (some "bob") none none).authorize,
        (Actor.ofIdentity (some "robot") (some "r@x") none).authorize] ∧
    decision.stillMissing = [(Actor.ofIdentity (some "bob") (some "b@x") none).authorize] := by
  intro session decision
  have h : session.cache.Reachable := .compile "(" .fresh
  obtain ⟨-, -, parted⟩ :=
    resolve_partition .extended ⟨"acme/widgets", "p", 0⟩ (some widgetRules) widgetActors h
  obtain ⟨resolved, missing, allowlisted, -⟩ :=
    parted ⟨"re:^wid", " [bob || re:bot$;*] ", .regex⟩ (by decide +kernel)
  refine ⟨h, resolved, ?_, ?_⟩
  · rw [allowlisted]
    decide +kernel
  · rw [missing]
    decide +kernel

end ClaExemption
