import ClaExemption.Proofs.Resolve.Partition
import ClaExemption.Proofs.Rule.Reach

/-!
# What resolving compiles

Selecting an entry looks for the expressions of keys in the name of the
repository, up to the first one that is found there (`RuleMap.Scans`), and
deciding about actors compiles what the rule comes to for each of them
(`Rule.Reaches`). `triesExactly_resolve` puts these together;
`new_cache_holds_reached` says what a cache that was new holds afterwards.
-/

namespace ClaExemption

open SessionM
open Text (Utf8.encode)

/-! ## Selecting an entry -/

/-- The expression of a key is looked for in the name of a repository: there is no value under the
name itself, and the first key that is found, if any, does not come before it. -/
structure RuleMap.Scans (m : RuleMap) (repo source : String) : Prop where
  lacks : m.Lacks repo
  held : ∃ v, m.get? ("re:" ++ source) = some v
  reached : ∀ k, m.FirstFound repo k → Utf8.encode ("re:" ++ source) ≤ Utf8.encode k

theorem Pattern.found_of_problem {source : String} {p : PatternProblem}
    (h : Regex.problem? source = some p) (value : String) : found source value = false := by
  unfold Regex.problem? at h
  unfold found
  cases e : Regex.compile source with
  | ok r => rw [e] at h; cases h
  | error fault => rfl

namespace RuleMap

variable {m : RuleMap} {repo source : String}

/-- The search through the marked keys comes to those that no key which is found comes before. -/
theorem exists_comesTo_iff :
    (∃ e, ComesTo (fun e => Pattern.found e.source repo) m.regexEntries e ∧ source = e.source) ↔
      (∃ v, m.get? ("re:" ++ source) = some v) ∧
        ∀ k, m.FirstFound repo k → Utf8.encode ("re:" ++ source) ≤ Utf8.encode k := by
  constructor
  · rintro ⟨e, ⟨before, after, split, missed⟩, rfl⟩
    have mem : e ∈ m.regexEntries := split ▸ List.mem_append_right _ List.mem_cons_self
    obtain ⟨marked, held⟩ := mem_regexEntries.1 mem
    rw [← marked]
    exact ⟨⟨_, held⟩, fun k first => encode_le_of_missed split missed first.held first.found⟩
  · rintro ⟨⟨v, held⟩, reached⟩
    have mem : ⟨_, source, v⟩ ∈ m.regexEntries := mem_regexEntries.2 ⟨rfl, held⟩
    obtain ⟨before, after, split⟩ := List.append_of_mem mem
    refine ⟨_, ⟨before, after, split, fun b hb => ?_⟩, rfl⟩
    rw [Bool.eq_false_iff]
    intro hit
    -- The first key that is found is not after `b`, and so before the key in question.
    have listed : b ∈ m.regexEntries := split ▸ List.mem_append_left _ hb
    have below : b.key < "re:" ++ source := by
      have ascend := m.regexEntries_ascend
      rw [split] at ascend
      exact (List.pairwise_append.1 ascend).2.2 b hb _ List.mem_cons_self
    cases e : m.found? repo with
    | none => exact List.find?_eq_none.1 e b listed hit
    | some first =>
      obtain ⟨least, -⟩ := found?_eq_some e
      have le := least.least b.key ⟨_, (mem_regexEntries.1 listed).2⟩ (keyFound_of_mem listed hit)
      have le' := reached _ least
      rw [Text.Utf8.encode_le_encode_iff] at le le'
      exact String.not_lt.2 (String.le_trans le' le) below

end RuleMap

theorem triesExactly_findRegexEntry (repo : String) (entries : List RuleMap.RegexEntry) :
    TriesExactly (findRegexEntry repo entries) fun source =>
      ∃ e, ComesTo (fun e => Pattern.found e.source repo) entries e ∧ source = e.source := by
  induction entries with
  | nil => exact .pure_of_none fun _ ⟨_, comes, _⟩ => not_comesTo_nil comes
  | cons e entries ih =>
    refine TriesExactly.congr ?_ fun _ => exists_comesTo_cons_iff.symm
    refine .compile (fun r compiled => ?_) fun _ broken => ⟨_, _, rfl, rfl, ?_⟩
    · have found : Pattern.found e.source repo = r.isMatch repo := by
        rw [Pattern.found, compiled]
      rw [found]
      dsimp only
      cases r.isMatch repo with
      | true => exact .pure_of_none fun _ h => nomatch h.1
      | false => exact ih.congr fun _ => (and_iff_right rfl).symm
    · exact ih.congr fun _ => (and_iff_right (Pattern.found_of_problem broken repo)).symm

theorem triesExactly_selectWildcard (m : RuleMap) (repo : String) :
    TriesExactly (selectWildcard m repo) fun _ => False := by
  unfold selectWildcard
  cases m.getNonEmpty? wildcardKey with
  | none => exact .pure _
  | some v => exact .logEntry_bind _ (.pure _)

theorem triesExactly_selectEntry (m : RuleMap) (repo : String) :
    TriesExactly (selectEntry m repo) (m.Scans repo) := by
  unfold selectEntry
  cases e : m.getNonEmpty? repo with
  | some v =>
    obtain ⟨held, hne⟩ := RuleMap.getNonEmpty?_eq_some.1 e
    exact .logEntry_bind _ (.pure_of_none fun _ scans => scans.lacks.elim held hne)
  | none =>
    have lacks := RuleMap.getNonEmpty?_eq_none.1 e
    have scans : ∀ source, (∃ e, ComesTo (fun e => Pattern.found e.source repo) m.regexEntries e ∧
        source = e.source) ↔ m.Scans repo source := fun source => by
      rw [RuleMap.exists_comesTo_iff]
      exact ⟨fun h => ⟨lacks, h.1, h.2⟩, fun h => ⟨h.held, h.reached⟩⟩
    refine TriesExactly.congr ?_ scans
    refine .bind_quiet (yields_findRegexEntry repo _) (triesExactly_findRegexEntry repo _) ?_
    cases m.regexEntries.find? fun e => Pattern.found e.source repo with
    | none => exact triesExactly_selectWildcard m repo
    | some e =>
      dsimp only
      split
      · exact triesExactly_selectWildcard m repo
      · exact .logEntry_bind _ (.pure _)

/-! ## Deciding about actors -/

variable (s : Subject) (value : String) (rule : Rule)

theorem triesExactly_decideActor (d : Decision) (a : Actor) :
    TriesExactly (decideActor s value rule d a) (rule.Reaches a) := by
  unfold decideActor
  refine .logEntry_bind _ (.bind_quiet (rule.yields_matchActor a) (rule.triesExactly_matchActor a) ?_)
  cases rule.admits a with
  | true => exact .logEntry_bind _ (.quiet_bind (yields_report _) (triesExactly_report _) (.pure _))
  | false => exact .pure _

theorem triesExactly_decideActors (d : Decision) (actors : List Actor) :
    TriesExactly (decideActors s value rule d actors) fun source =>
      ∃ a ∈ actors, rule.Reaches a source := by
  induction actors generalizing d with
  | nil => exact .pure_of_none fun _ ⟨_, mem, _⟩ => List.not_mem_nil mem
  | cons a actors ih =>
    refine TriesExactly.congr
      (P := fun source => rule.Reaches a source ∨ ∃ b ∈ actors, rule.Reaches b source)
      ?_ fun source => by simp only [List.mem_cons, exists_eq_or_imp]
    exact .bind (yields_decideActor s value rule d a) (triesExactly_decideActor s value rule d a)
      (ih _)

/-- Resolving compiles the expressions that are looked for in the name of the repository, and those
that the rule which applies comes to for some actor, and no others. -/
theorem triesExactly_resolve (grammar : Grammar) (m : RuleMap) (actors : List (Option Actor)) :
    TriesExactly (resolve grammar s (some m) actors) fun source =>
      m.Scans (repositoryName s.orgRepo) source ∨
        ∃ e, m.Selects (repositoryName s.orgRepo) (some e) ∧
          ∃ a, some a ∈ actors ∧ (Rule.parse grammar e.value).Reaches a source := by
  refine .bind (yields_selectEntry m _) (triesExactly_selectEntry m _) ?_
  cases selected : m.selected (repositoryName s.orgRepo) with
  | none =>
    refine .logEntry_bind _ (.pure_of_none fun _ ⟨e, selects, _⟩ => ?_)
    cases selected.symm.trans (RuleMap.selects_iff.1 selects)
  | some e =>
    refine .logEntry_bind _ ((triesExactly_decideActors s e.value _ _ _).congr fun source => ?_)
    simp only [RuleMap.selects_iff, selected, Option.some.injEq, exists_eq_left', List.mem_filterMap,
      id_eq, exists_eq_right]

/-- Matching a rule against actors one after another leaves in a new cache the expressions that the
rule comes to for some of them, each once, and no others. Resolving leaves these for the entry that
applies, and before them the expressions that were looked for in the name of the repository. -/
theorem new_cache_holds_reached (grammar : Grammar) (sink : Sink) (log : Log) :
    let session : Session := ⟨.fresh, sink, log⟩
    (∀ (value : String) (actors : List Actor),
      let rule := Rule.parse grammar value
      (actors.mapM rule.matchActor session).2.cache.Holds fun source =>
        ∃ a ∈ actors, rule.Reaches a source) ∧
    (∀ (s : Subject) (m : RuleMap) (actors : List (Option Actor)),
      let repo := repositoryName s.orgRepo
      (resolve grammar s (some m) actors session).2.cache.Holds fun source =>
        m.Scans repo source ∨
          ∃ e, m.Selects repo (some e) ∧
            ∃ a, some a ∈ actors ∧ (Rule.parse grammar e.value).Reaches a source) := by
  intro session
  refine ⟨fun value actors => ?_, fun s m actors => ?_⟩
  · have yields := (Rule.parse grammar value).yields_matchActor
    have tries := (Rule.parse grammar value).triesExactly_matchActor
    exact (triesExactly_mapM yields tries actors).holds (yields_mapM yields actors) sink log
  · exact (triesExactly_resolve s grammar m actors).holds (yields_resolve s _ _ _) sink log

/-- The email is missing, so its expression is not compiled, but that of the next alternative is. -/
example :
    let rule := Rule.parse .extended "[re:^b;re:@x$;*||re:c;;||re:d;;]"
    let actor := Actor.ofIdentity (some "bob") none none
    let session : Session := ⟨.fresh, .recording [], []⟩
    (rule.matchActor actor session).2.cache.entries.map (·.1) = ["d", "c", "^b"] := by
  decide +kernel

end ClaExemption
