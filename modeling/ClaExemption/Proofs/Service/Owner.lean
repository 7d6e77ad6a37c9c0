import ClaExemption.Proofs.Service.ClockRange
import ClaExemption.Proofs.Service.Twin

/-!
# What the owner in a full name counts for

The full name of a repository is cut at its first slash, once for the name of the
repository (`repositoryName_append`) and once for its owner (`ownerName?_append`).
A decision depends on the full name through the name of the repository alone, but
for what its events tell (`Subject.decision_toldOf`). So the owner selects the
record that a check goes by, and no rule of it (`owner_selects_record_alone`).
-/

namespace ClaExemption

variable {owner name : String}

/-! ## Cutting full names -/

theorem cutFirst_append (plain : '/' ∉ owner.toList) (name : String) :
    Text.cutFirst '/' (owner ++ "/" ++ name).toList = some (owner.toList, name.toList) := by
  refine Text.cutFirst_eq_some.2 ⟨?_, plain⟩
  rw [String.toList_append, String.toList_append, List.append_assoc]
  rfl

theorem repositoryName_append (plain : '/' ∉ owner.toList) (filled : name ≠ "") :
    repositoryName (owner ++ "/" ++ name) = name := by
  have more : name.toList.isEmpty = false := by
    rw [List.isEmpty_eq_false_iff]
    exact fun empty => filled (String.toList_injective empty)
  rw [repositoryName, cutFirst_append plain]
  dsimp only
  rw [more, if_neg Bool.false_ne_true, String.ofList_toList]

theorem repositoryName_of_plain (plain : '/' ∉ name.toList) : repositoryName name = name := by
  have whole : Text.cutFirst '/' name.toList = none := by
    refine Option.eq_none_iff_forall_not_mem.2 fun cut found => plain ?_
    rw [(Text.cutFirst_eq_some.1 found).1]
    exact List.mem_append_right _ List.mem_cons_self
  rw [repositoryName, whole]

theorem ownerName?_append (plain : '/' ∉ owner.toList) (filled : owner ≠ "") (name : String) :
    ownerName? (owner ++ "/" ++ name) = some owner := by
  rw [ownerName?, cutFirst_append plain]
  show nonEmpty? (String.ofList owner.toList) = some owner
  rw [String.ofList_toList, nonEmpty?, if_neg filled]

/-! ## Decisions -/

/-- The event as it is told of a repository by its full name, at a time. -/
def AuditEvent.toldOf (e : AuditEvent) (orgRepo : String) (now : UInt64) : AuditEvent :=
  { e with data := { e.data with repo := orgRepo }, timestamp := now }

/-- The decision with its events told of a repository by its full name, at a time. -/
def Decision.toldOf (d : Decision) (orgRepo : String) (now : UInt64) : Decision :=
  { d with events := d.events.map fun e => e.toldOf orgRepo now }

/-- Full names with one name of the repository get the same decision, but for what its events
tell. -/
theorem Subject.decision_toldOf {orgRepo orgRepo' : String}
    (same : repositoryName orgRepo' = repositoryName orgRepo) (projectId : String)
    (now now' : UInt64) (grammar : Grammar) (rules : Option RuleMap)
    (actors : List (Option Actor)) :
    Subject.decision ⟨orgRepo', projectId, now'⟩ grammar rules actors =
      (Subject.decision ⟨orgRepo, projectId, now⟩ grammar rules actors).toldOf orgRepo' now' := by
  unfold Subject.decision Subject.entry Decision.toldOf Decision.extend
  dsimp only
  rw [same]
  cases rules.bind fun m => m.selected (repositoryName orgRepo) with
  | none => rfl
  | some e =>
    simp only [List.nil_append, List.map_map]
    rfl

namespace Service

variable {s t : Service} {projectId : String} {actors : List (Option Actor)}

/-- An organization given beside a repository, and one given as its owner, lead to one outcome, but
for what its events tell. -/
theorem outcome_owned (twin : s.Twin t) (hs : s.session.cache.Reachable)
    (ht : t.session.cache.Reachable) (plain : '/' ∉ owner.toList) (filled : owner ≠ "")
    (plain' : '/' ∉ name.toList) (filled' : name ≠ "") (now now' : UInt64) :
    (t.outcome now' ⟨none, owner ++ "/" ++ name, projectId, actors⟩).1 =
      (s.outcome now ⟨some owner, name, projectId, actors⟩).1.map
        fun d => d.toldOf (owner ++ "/" ++ name) now' := by
  have given : (⟨some owner, name, projectId, actors⟩ : Request).organizationName = some owner := by
    rw [Request.organizationName, Option.bind_some, nonEmpty?, if_neg filled, Option.some_or]
  have taken : (⟨none, owner ++ "/" ++ name, projectId, actors⟩ : Request).organizationName =
      some owner := by
    rw [Request.organizationName, Option.bind_none, Option.none_or, ownerName?_append plain filled]
  have same : repositoryName (owner ++ "/" ++ name) = repositoryName name := by
    rw [repositoryName_append plain filled', repositoryName_of_plain plain']
  rw [outcome_fst ht, outcome_fst hs, twin.organizationOf_eq, twin.grammar, organizationOf,
    organizationOf, given, taken]
  dsimp only
  cases s.organization owner with
  | error e => rfl
  | ok org => exact congrArg Except.ok (Subject.decision_toldOf same projectId now now' _ _ _)

end Service

/-- Under any owner, and without one, a repository gets the same decision by the same rules, and
only its events tell the full name. A check of a repository whose organization is given ends as one
of the repository with the organization for its owner, by any twin of the service: with the same
lists and the same entry, or with the same error, or neither of them ends for want of time on the
clock. -/
theorem owner_selects_record_alone (projectId : String) (actors : List (Option Actor)) :
    (∀ (grammar : Grammar) (rules : Option RuleMap) (owner owner' name : String)
      (now now' : UInt64) (session session' : Session), '/' ∉ owner.toList → '/' ∉ owner'.toList →
      name ≠ "" → session.cache.Reachable → session'.cache.Reachable →
      let d := (resolve grammar ⟨owner ++ "/" ++ name, projectId, now⟩ rules actors session).1
      (resolve grammar ⟨owner' ++ "/" ++ name, projectId, now'⟩ rules actors session').1 =
        d.toldOf (owner' ++ "/" ++ name) now' ∧
      ('/' ∉ name.toList →
        (resolve grammar ⟨name, projectId, now'⟩ rules actors session').1 = d.toldOf name now')) ∧
    ∀ (s t : Service) (owner name : String) (m m' : Moment) (id id' : String), s.Twin t →
      s.session.cache.Reachable → t.session.cache.Reachable → '/' ∉ owner.toList → owner ≠ "" →
      '/' ∉ name.toList → name ≠ "" →
      let given : Request := ⟨some owner, name, projectId, actors⟩
      let taken : Request := ⟨none, owner ++ "/" ++ name, projectId, actors⟩
      ((s.check m id given).isSome ↔ m.started + s.timings.lifetime < clockLimit) ∧
      ((m.started + s.timings.lifetime < clockLimit ↔
          m'.started + t.timings.lifetime < clockLimit) →
        (t.check m' id' taken).map (·.1) = (s.check m id given).map fun answered =>
          answered.1.map fun d => d.toldOf (owner ++ "/" ++ name) m'.now) := by
  refine ⟨fun grammar rules owner owner' name now now' session session' plain plain' filled h h' =>
    ?_, fun s t owner name m m' id id' twin hs ht plain filled plain' filled' => ?_⟩
  · have cut := repositoryName_append plain filled
    have told : ∀ orgRepo, repositoryName orgRepo = name →
        (resolve grammar ⟨orgRepo, projectId, now'⟩ rules actors session').1 =
          (resolve grammar ⟨owner ++ "/" ++ name, projectId, now⟩ rules actors session).1.toldOf
            orgRepo now' := fun orgRepo same => by
      rw [(yields_resolve _ _ _ _).value h', (yields_resolve _ _ _ _).value h]
      exact Subject.decision_toldOf (same.trans cut.symm) projectId now now' grammar rules actors
    exact ⟨told _ (repositoryName_append plain' filled), fun bare =>
      told name (repositoryName_of_plain bare)⟩
  · refine ⟨s.check_isSome_iff m id _, fun alike => ?_⟩
    by_cases fits : m.started + s.timings.lifetime < clockLimit
    · obtain ⟨after, checked, -⟩ := Service.check_of_fits fits id
        ⟨some owner, name, projectId, actors⟩
      obtain ⟨after', checked', -⟩ := Service.check_of_fits (alike.1 fits) id'
        ⟨none, owner ++ "/" ++ name, projectId, actors⟩
      rw [checked, checked']
      exact congrArg some
        (Service.outcome_owned twin hs ht plain filled plain' filled' m.now m'.now)
    · have fits' : ¬ m'.started + t.timings.lifetime < clockLimit := fits ∘ alike.2
      rw [Service.check_of_not_fits fits, Service.check_of_not_fits fits']
      rfl

theorem owner_selects_record_alone_acme :
    let actors : List (Option Actor) := [some (.ofIdentity (some "robot") none none), none]
    let session : Session := ⟨.fresh, .logging, []⟩
    let s := Service.quiet
    let fullName := "Acme/widgets"
    '/' ∉ "Acme".toList ∧ "Acme" ≠ "" ∧ '/' ∉ "".toList ∧ '/' ∉ "widgets".toList ∧ "widgets" ≠ "" ∧
    session.cache.Reachable ∧ s.session.cache.Reachable ∧
    (resolve .simple ⟨"/widgets", "p", 9⟩ Service.acme.rules actors session).1 =
      (resolve .simple ⟨fullName, "p", 7⟩ Service.acme.rules actors session).1.toldOf "/widgets" 9 ∧
    (s.check ⟨5, 6, 7⟩ "x" ⟨some "Acme", "widgets", "p", actors⟩).isSome ∧
    (s.check ⟨8, 9, 9⟩ "y" ⟨none, fullName, "p", actors⟩).map (·.1) =
      (s.check ⟨5, 6, 7⟩ "x" ⟨some "Acme", "widgets", "p", actors⟩).map fun answered =>
        answered.1.map fun d => d.toldOf fullName 9 := by
  intro actors session s fullName
  have plain : '/' ∉ "Acme".toList := by decide
  have plain' : '/' ∉ "widgets".toList := by decide
  have reached : s.Reachable .extended := (Service.Reachable.start _ _ _ .disabled).foldl _
  have lifetime : s.timings.lifetime = 300 * nanosPerSecond := Service.lifetime_foldl _ _
  have fits : (5 : Instant) + s.timings.lifetime < clockLimit := by
    rw [lifetime]
    decide
  have fits' : (8 : Instant) + s.timings.lifetime < clockLimit := by
    rw [lifetime]
    decide
  obtain ⟨resolved, checked⟩ := owner_selects_record_alone "p" actors
  obtain ⟨told, -⟩ := resolved .simple Service.acme.rules "Acme" "" "widgets" 7 9 session session
    plain nofun (by decide) .fresh .fresh
  obtain ⟨answered, alike⟩ := checked s s "Acme" "widgets" ⟨5, 6, 7⟩ ⟨8, 9, 9⟩ "x" "y" (.refl s)
    reached.cache reached.cache plain (by decide) plain' (by decide)
  exact ⟨plain, by decide, nofun, plain', by decide, .fresh, reached.cache, told, answered.2 fits,
    alike (iff_of_true fits fits')⟩

end ClaExemption
