import ClaExemption.Rule.Match
import ClaExemption.Select

/-!
# Deciding about actors

`resolve` selects the entry that applies to a repository and parts the actors
into those that its rule exempts and those that still have to sign. Missing
actors are dropped. Each exemption is logged, reported to the sink and kept in
the decision.
-/

namespace ClaExemption

/-- The descriptions of actors in a list. -/
def describeAll (actors : List Actor) : String :=
  "[" ++ ", ".intercalate (actors.map Actor.describe) ++ "]"

/-- What a check is about: the full name of the repository, the project, and the time. -/
structure Subject where
  orgRepo : String
  projectId : String
  now : UInt64

/-- The event of exempting an actor under the value of a rule. -/
def Subject.event (s : Subject) (value : String) (a : Actor) : AuditEvent :=
  .ofBypass ⟨s.orgRepo, value, a.describe⟩ s.projectId s.now

/-- Decides about one actor after others. -/
def decideActor (s : Subject) (value : String) (rule : Rule) (d : Decision) (a : Actor) :
    SessionM Decision := do
  SessionM.logEntry
    { level := .debug
      message := "checking actor against skip_cla"
      details := [("org_repo", .text s.orgRepo), ("actor", .text a.describe)] }
  if ← rule.matchActor a then
    SessionM.logEntry
      { level := .info
        message := "skipping CLA check for actor due to skip_cla config"
        details := [("org_repo", .text s.orgRepo), ("project_id", .text s.projectId),
          ("actor", .text a.describe), ("rule", .text rule.text)] }
    let event := s.event value a
    SessionM.report event
    return { d with
      allowlisted := d.allowlisted ++ [{ a with authorized := true }]
      events := d.events ++ [event] }
  else return { d with stillMissing := d.stillMissing ++ [a] }

/-- Decides about the actors in their order. -/
def decideActors (s : Subject) (value : String) (rule : Rule) :
    Decision → List Actor → SessionM Decision
  | d, [] => return d
  | d, a :: actors => do decideActors s value rule (← decideActor s value rule d a) actors

/-- Decides about the actors of a commit by the rules of an organization. -/
def resolve (grammar : Grammar) (s : Subject) (rules : Option RuleMap)
    (actors : List (Option Actor)) : SessionM Decision := do
  let repo := repositoryName s.orgRepo
  let actors := actors.filterMap id
  match rules with
  | none =>
    SessionM.logEntry
      { level := .debug
        message := "skip_cla is not set, skipping allowlisted bots check"
        details := [("org_repo", .text s.orgRepo), ("project_id", .text s.projectId)] }
    return .passthrough actors
  | some rules =>
    match ← selectEntry rules repo with
    | none =>
      SessionM.logEntry
        { level := .debug
          message := "no skip_cla config found for repo, skipping allowlisted bots check"
          details := [("org_repo", .text s.orgRepo), ("repo", .text repo),
            ("project_id", .text s.projectId)] }
      return .passthrough actors
    | some selected =>
      let rule := Rule.parse grammar selected.value
      SessionM.logEntry
        { level := .debug
          message := "final skip_cla config for repo"
          details := [("org_repo", .text s.orgRepo), ("project_id", .text s.projectId),
            ("key", .text selected.key), ("source", .text selected.source.name),
            ("rule", .text rule.text), ("actors", .text (describeAll actors))] }
      decideActors s selected.value rule { resolved := some selected } actors

/-- Decides about the actors of a commit by the record of an organization. -/
def resolveFor (grammar : Grammar) (s : Subject) (org : Organization)
    (actors : List (Option Actor)) : SessionM Decision :=
  resolve grammar s org.rules actors

end ClaExemption
