import ClaExemption.Proofs.Resolve.Partition

/-!
# White space around values

`RuleMap.Padded` maps differ in white space around their values alone. Reading a
value forgets that white space (`Rule.parse_padded`), but whether a value is
empty is asked before it is read. So white space changes a decision only where
it makes an empty value count (`resolve_padded_iff`); a value of nothing but
white space then exempts those of whom nothing is known (`rule_of_blank`).
-/

namespace ClaExemption

open Text (AllBlank trimChars)

/-- A text is another one with white space put around it. -/
def Padded (v v' : String) : Prop :=
  ∃ w w', AllBlank w ∧ AllBlank w' ∧ v'.toList = w ++ v.toList ++ w'

theorem Padded.refl (v : String) : Padded v v :=
  ⟨[], [], nofun, nofun, (List.append_nil _).symm⟩

theorem padded_of_blank {v : String} (h : AllBlank v.toList) : Padded "" v :=
  ⟨v.toList, [], h, nofun, (by rw [List.append_nil, String.toList_empty, List.append_nil])⟩

variable {v v' : String}

theorem Padded.trimChars_eq (h : Padded v v') : trimChars v'.toList = trimChars v.toList := by
  obtain ⟨w, w', hw, hw', e⟩ := h
  rw [e, Text.trimChars_append_of_blank hw hw']

/-- Only the empty text can be what is left without white space around it. -/
theorem Padded.eq_empty (h : Padded v v') (empty : v' = "") : v = "" := by
  obtain ⟨w, w', -, -, e⟩ := h
  rw [empty, String.toList_empty] at e
  have nothing := (List.append_eq_nil_iff.1 (List.append_eq_nil_iff.1 e.symm).1).2
  exact String.toList_eq_nil_iff.1 nothing

/-- White space around a value does not change the rule that it is read into. -/
theorem Rule.parse_padded (grammar : Grammar) (h : Padded v v') :
    Rule.parse grammar v' = Rule.parse grammar v := by
  cases grammar with
  | extended => rw [parse, parse, splitAlternatives, splitAlternatives, h.trimChars_eq]
  | simple => rw [parse_simple, parse_simple, h.trimChars_eq]

/-- A value of white space reads as three empty patterns, or as one in the simple grammar. -/
theorem rule_of_blank (grammar : Grammar) (h : AllBlank v.toList) (a : Actor) :
    (Rule.parse grammar v).admits a =
      decide (grammar = .extended ∧ a.login = "" ∧ a.email = "" ∧ a.name = "") := by
  rw [Rule.parse_padded grammar (padded_of_blank h)]
  cases grammar with
  | extended =>
    have read : Rule.parse .extended "" = .extended [⟨.empty, .empty, .empty⟩] := by decide +kernel
    rw [read]
    simp [Rule.admits, Triple.admits, Pattern.fits, Bool.and_assoc]
  | simple =>
    have read : Rule.parse .simple "" = .simple .empty none := by decide +kernel
    rw [read]
    simp [Rule.admits, Pattern.fitsPresent, Pattern.fits]

/-- Maps of the same keys, with the same value under each but for white space around it. -/
def RuleMap.Padded (m m' : RuleMap) : Prop :=
  ∀ k, Option.Rel ClaExemption.Padded (m.get? k) (m'.get? k)

namespace RuleMap

variable {m m' : RuleMap} {repo : String}

/-- A value replaced by itself with white space around it. -/
theorem padded_insert {k : String} (held : m.get? k = some v) (h : ClaExemption.Padded v v') :
    m.Padded (m.insert k v') := by
  intro k'
  rw [get?_insert]
  by_cases same : k' = k
  · rw [if_pos same, same, held]
    exact .some h
  · rw [if_neg same]
    cases m.get? k' with
    | none => exact .none
    | some w => exact .some (.refl w)

/-! ## Where the entry is found -/

theorem Padded.held_iff (h : m.Padded m') (k : String) :
    (∃ v, m'.get? k = some v) ↔ ∃ v, m.get? k = some v := by
  have rel := h k
  generalize m.get? k = o, m'.get? k = o' at rel
  cases rel with
  | none => exact .rfl
  | some _ => exact ⟨fun _ => ⟨_, rfl⟩, fun _ => ⟨_, rfl⟩⟩

theorem Padded.firstFound_iff (h : m.Padded m') (k : String) :
    m'.FirstFound repo k ↔ m.FirstFound repo k :=
  ⟨fun ⟨held, found, least⟩ =>
    ⟨(h.held_iff k).1 held, found, fun k' held' => least k' ((h.held_iff k').2 held')⟩,
  fun ⟨held, found, least⟩ =>
    ⟨(h.held_iff k).2 held, found, fun k' held' => least k' ((h.held_iff k').1 held')⟩⟩

/-- What is empty with white space around it was empty before. -/
theorem Padded.get?_of_empty (h : m.Padded m') {k : String} (empty : m'.get? k = some "") :
    m.get? k = some "" := by
  have rel := h k
  rw [empty] at rel
  generalize m.get? k = o at rel
  cases rel with
  | some padded => rw [padded.eq_empty rfl]

theorem Padded.lacks (h : m.Padded m') {k : String} (lacks : m'.Lacks k) : m.Lacks k := by
  intro v held
  have rel := h k
  rw [held] at rel
  generalize e : m'.get? k = o' at rel
  cases rel with
  | some padded => exact padded.eq_empty (lacks _ e)

/-- Entries found in the same place, with the same value but for white space around it. -/
structure SamePlace (e e' : Selected) : Prop where
  key : e.key = e'.key
  source : e.source = e'.source
  value : ClaExemption.Padded e.value e'.value

/-- If the entry that applies among the padded values was not empty before, the one that applied
before is found in the same place. -/
theorem Padded.selects (h : m.Padded m') {entry' : Option Selected}
    (selects : m'.Selects repo entry')
    (counted : ∀ e, entry' = some e → m.get? e.key ≠ some "") :
    ∃ entry, m.Selects repo entry ∧ Option.Rel SamePlace entry entry' := by
  have empty : (∀ k, m'.FirstFound repo k → m'.get? k = some "") →
      ∀ k, m.FirstFound repo k → m.get? k = some "" := fun hempty k hk =>
    h.get?_of_empty (hempty k ((h.firstFound_iff k).2 hk))
  -- The value in the same place before, which is not empty.
  have before : ∀ {k v'}, m'.get? k = some v' → m.get? k ≠ some "" →
      ∃ v, m.get? k = some v ∧ v ≠ "" ∧ ClaExemption.Padded v v' := fun {k v'} held' hne => by
    have rel := h k
    rw [held'] at rel
    generalize e : m.get? k = o at rel hne
    cases rel with
    | some padded => exact ⟨_, rfl, fun e => hne (congrArg some e), padded⟩
  cases selects with
  | exact held' _ =>
    obtain ⟨v, held, hne, padded⟩ := before held' (counted _ rfl)
    exact ⟨_, .exact held hne, .some ⟨rfl, rfl, padded⟩⟩
  | regex lacks first held' _ =>
    obtain ⟨v, held, hne, padded⟩ := before held' (counted _ rfl)
    exact ⟨_, .regex (h.lacks lacks) ((h.firstFound_iff _).1 first) held hne,
      .some ⟨rfl, rfl, padded⟩⟩
  | wildcard lacks hempty held' _ =>
    obtain ⟨v, held, hne, padded⟩ := before held' (counted _ rfl)
    exact ⟨_, .wildcard (h.lacks lacks) (empty hempty) held hne, .some ⟨rfl, rfl, padded⟩⟩
  | none lacks hempty star =>
    exact ⟨_, .none (h.lacks lacks) (empty hempty) (h.lacks star), .none⟩

end RuleMap

/-! ## Decisions -/

/-- Decisions that agree on all actors, and on where the entry that applied was found. -/
structure Decision.Agree (d d' : Decision) : Prop where
  stillMissing : d.stillMissing = d'.stillMissing
  allowlisted : d.allowlisted = d'.allowlisted
  place : (d.resolved.map fun e => (e.key, e.source)) = d'.resolved.map fun e => (e.key, e.source)

theorem Subject.decision_resolved (s : Subject) (grammar : Grammar) (rules : Option RuleMap)
    (actors : List (Option Actor)) :
    (s.decision grammar rules actors).resolved = s.entry rules := by
  unfold Subject.decision
  split
  · next none => exact none.symm
  · next some => exact some.symm

theorem Subject.decision_agree (s : Subject) (grammar : Grammar) {rules rules' : Option RuleMap}
    (actors : List (Option Actor))
    (same : Option.Rel RuleMap.SamePlace (s.entry rules) (s.entry rules')) :
    (s.decision grammar rules actors).Agree (s.decision grammar rules' actors) := by
  unfold Subject.decision
  generalize s.entry rules = o, s.entry rules' = o' at same
  cases same with
  | none => exact ⟨rfl, rfl, rfl⟩
  | some e =>
    dsimp only
    rw [Rule.parse_padded grammar e.value]
    exact ⟨rfl, rfl, congrArg some (Prod.ext e.key e.source)⟩

/-- White space around values leaves a decision as it is exactly if the entry that applies with it
was not empty without it; so it does if no empty value is touched. If a value of nothing but white
space applies, it exempts those without login, email and name, and nobody in the simple
grammar. -/
theorem resolve_padded_iff (grammar : Grammar) (s : Subject) {m m' : RuleMap} (h : m.Padded m')
    (actors : List (Option Actor)) {session session' : Session}
    (reachable : session.cache.Reachable) (reachable' : session'.cache.Reachable) :
    let d := (resolve grammar s (some m) actors session).1
    let d' := (resolve grammar s (some m') actors session').1
    (d.Agree d' ↔ ∀ e, d'.resolved = some e → m.get? e.key ≠ some "") ∧
    ((∀ k, m.get? k = some "" → m'.get? k = some "") → d.Agree d') ∧
    ∀ e, d'.resolved = some e → AllBlank e.value.toList →
      d'.allowlisted = ((actors.filterMap id).filter fun a =>
        grammar = .extended ∧ a.login = "" ∧ a.email = "" ∧ a.name = "").map Actor.authorize := by
  intro d d'
  have hd : d = s.decision grammar (some m) actors := (yields_resolve s _ _ _).value reachable
  have hd' : d' = s.decision grammar (some m') actors := (yields_resolve s _ _ _).value reachable'
  have entry : d.resolved = m.selected (repositoryName s.orgRepo) := by
    rw [hd, s.decision_resolved]
    rfl
  have entry' : d'.resolved = m'.selected (repositoryName s.orgRepo) := by
    rw [hd', s.decision_resolved]
    rfl
  have agree : (∀ e, d'.resolved = some e → m.get? e.key ≠ some "") → d.Agree d' := by
    intro counted
    obtain ⟨found, selects, same⟩ := h.selects (m'.selects_selected (repositoryName s.orgRepo))
      fun e he => counted e (entry'.trans he)
    rw [hd, hd']
    refine s.decision_agree grammar actors ?_
    rw [← RuleMap.selects_iff.1 selects] at same
    exact same
  refine ⟨⟨fun agrees e he empty => ?_, agree⟩, fun kept => agree fun e he empty => ?_,
    fun e he blank => ?_⟩
  · -- The entry that applied before is found under the same key, and is not empty.
    have place := agrees.place
    rw [he, Option.map_some, Option.map_eq_some_iff] at place
    obtain ⟨found, hfound, same⟩ := place
    obtain ⟨held, hne⟩ := RuleMap.held_of_selected (entry.symm.trans hfound)
    rw [(Prod.mk.inj same).1, empty] at held
    exact hne (Option.some.inj held).symm
  · obtain ⟨held, hne⟩ := RuleMap.held_of_selected (entry'.symm.trans he)
    exact hne (Option.some.inj (held.symm.trans (kept _ empty)))
  · have applies : s.entry (some m') = some e := entry'.symm.trans he
    rw [hd', Subject.decision, applies]
    simp only [Decision.extend, List.nil_append, rule_of_blank grammar blank]

/-- White space around a value that counts already. -/
theorem resolve_padded_iff_widgets :
    let m : RuleMap := .ofList [("re:^wid", "[bob||re:bot$;*]"), ("*", "")]
    let m' := m.insert "re:^wid" " [bob||re:bot$;*]\t"
    let session : Session := ⟨.fresh, .recording [], []⟩
    let session' : Session := ⟨.disabled, .logging, []⟩
    m.Padded m' ∧ session.cache.Reachable ∧ session'.cache.Reachable ∧
    (resolve .extended ⟨"acme/widgets", "p", 0⟩ (some m) widgetActors session).1.Agree
      (resolve .extended ⟨"acme/widgets", "p", 0⟩ (some m') widgetActors session').1 := by
  intro m m' session session'
  have padded : m.Padded m' := by
    refine RuleMap.padded_insert (v := "[bob||re:bot$;*]") (by decide +kernel) ⟨[' '], ['\t'], ?_⟩
    refine ⟨?_, ?_, by decide +kernel⟩ <;> exact fun c hc => by cases List.mem_singleton.1 hc; rfl
  have reachable : session.cache.Reachable := .fresh
  have reachable' : session'.cache.Reachable := .disabled
  obtain ⟨same, -⟩ :=
    resolve_padded_iff .extended ⟨"acme/widgets", "p", 0⟩ padded widgetActors reachable reachable'
  refine ⟨padded, reachable, reachable', same.2 fun e he => ?_⟩
  have found :
      (resolve .extended ⟨"acme/widgets", "p", 0⟩ (some m') widgetActors session').1.resolved =
        some ⟨"re:^wid", " [bob||re:bot$;*]\t", .regex⟩ := by decide +kernel
  cases found.symm.trans he
  decide +kernel

/-- A blank in place of an empty value makes it count: it exempts whom nothing is known of, where
the value under `*` exempts nobody. -/
theorem blank_value_counts :
    let m : RuleMap := .ofList [("widgets", ""), ("*", "bob;;")]
    let m' := m.insert "widgets" " "
    let session : Session := ⟨.fresh, .recording [], []⟩
    let d := (resolve .extended ⟨"acme/widgets", "p", 0⟩ (some m) [some {}] session).1
    let d' := (resolve .extended ⟨"acme/widgets", "p", 0⟩ (some m') [some {}] session).1
    m.Padded m' ∧ ¬ d.Agree d' ∧
    d.resolved = some ⟨"*", "bob;;", .wildcard⟩ ∧ d.allowlisted = [] ∧
    d'.resolved = some ⟨"widgets", " ", .exact⟩ ∧ d'.allowlisted = [{ authorized := true }] := by
  intro m m' session d d'
  have padded : m.Padded m' := by
    refine RuleMap.padded_insert (v := "") (by decide +kernel) (padded_of_blank fun c hc => ?_)
    cases List.mem_singleton.1 hc
    rfl
  have nobody : d.allowlisted = [] := by decide +kernel
  have unknown : d'.allowlisted = [{ authorized := true }] := by decide +kernel
  refine ⟨padded, fun agrees => ?_, by decide +kernel, nobody, by decide +kernel, unknown⟩
  have := agrees.allowlisted
  rw [nobody, unknown] at this
  cases this

end ClaExemption
