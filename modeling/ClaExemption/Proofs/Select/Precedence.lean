import ClaExemption.Proofs.Rule.Exempts
import ClaExemption.Proofs.Session.Yields
import ClaExemption.Proofs.Text.ByteOrder
import ClaExemption.Select

/-!
# Which entry applies to a repository

`RuleMap.Selects` says which entry of a map applies to a repository, in terms of
its keys and values alone. `RuleMap.selected` finds it without a session
(`RuleMap.selects_iff`), and `selectEntry` comes to the same whatever has been
compiled before (`yields_selectEntry`). `selectEntry_precedence` puts these
together.
-/

namespace ClaExemption

open Text (Utf8.encode)

/-- A key is a marked expression that compiles and is found in the name of a repository. -/
def KeyFound (repo key : String) : Prop :=
  ∃ source r, key = "re:" ++ source ∧ Regex.compile source = .ok r ∧ r.isMatch repo = true

/-- A key is a marked expression that does not compile. -/
def KeyBroken (key : String) : Prop :=
  ∃ source, key = "re:" ++ source ∧ ∀ r, Regex.compile source ≠ .ok r

theorem KeyBroken.not_found {repo key : String} (h : KeyBroken key) : ¬ KeyFound repo key := by
  rintro ⟨source, r, rfl, compiled, -⟩
  obtain ⟨source', marked, broken⟩ := h
  rw [← ofList_regexMark, ← ofList_regexMark] at marked
  have same := List.append_cancel_left (String.ofList_injective marked)
  rw [← String.toList_injective same] at broken
  exact broken r compiled

theorem KeyBroken.ne_star {key : String} (h : KeyBroken key) : key ≠ "*" := by
  obtain ⟨source, rfl, -⟩ := h
  exact mark_append_ne (by decide)

namespace RuleMap

/-- There is no value under a key, or only the empty one. -/
def Lacks (m : RuleMap) (key : String) : Prop := ∀ v, m.get? key = some v → v = ""

/-- A key of a map is the least one, by the bytes of keys, that is found in the name of a
repository. -/
structure FirstFound (m : RuleMap) (repo key : String) : Prop where
  held : ∃ v, m.get? key = some v
  found : KeyFound repo key
  least : ∀ k, (∃ v, m.get? k = some v) → KeyFound repo k → Utf8.encode key ≤ Utf8.encode k

/-- The entry of a map that applies to a repository. -/
inductive Selects (m : RuleMap) (repo : String) : Option Selected → Prop
  | exact {v : String} : m.get? repo = some v → v ≠ "" → Selects m repo (some ⟨repo, v, .exact⟩)
  | regex {k v : String} : m.Lacks repo → m.FirstFound repo k → m.get? k = some v → v ≠ "" →
    Selects m repo (some ⟨k, v, .regex⟩)
  | wildcard {v : String} : m.Lacks repo → (∀ k, m.FirstFound repo k → m.get? k = some "") →
    m.get? "*" = some v → v ≠ "" → Selects m repo (some ⟨"*", v, .wildcard⟩)
  | none : m.Lacks repo → (∀ k, m.FirstFound repo k → m.get? k = some "") → m.Lacks "*" →
    Selects m repo none

variable {m : RuleMap} {repo : String}

theorem FirstFound.unique {k k' : String} (h : m.FirstFound repo k) (h' : m.FirstFound repo k') :
    k = k' :=
  String.le_antisymm (Text.Utf8.encode_le_encode_iff.1 (h.least k' h'.held h'.found))
    (Text.Utf8.encode_le_encode_iff.1 (h'.least k h.held h.found))

theorem Lacks.elim {k v : String} (h : m.Lacks k) (hv : m.get? k = some v) (hne : v ≠ "") : False :=
  hne (h v hv)

/-- At most one entry applies. -/
theorem Selects.unique {a b : Option Selected} (ha : m.Selects repo a) (hb : m.Selects repo b) :
    a = b := by
  -- What is under the name, under the first key that is found and under `*` tells the cases apart.
  cases ha with
  | exact hv hne =>
    cases hb with
    | exact hv' _ => rw [Option.some.inj (hv.symm.trans hv')]
    | regex hlack => exact (hlack.elim hv hne).elim
    | wildcard hlack => exact (hlack.elim hv hne).elim
    | none hlack => exact (hlack.elim hv hne).elim
  | regex hlack hk hv hne =>
    cases hb with
    | exact hv' hne' => exact (hlack.elim hv' hne').elim
    | regex _ hk' hv' _ =>
      obtain rfl := hk.unique hk'
      rw [Option.some.inj (hv.symm.trans hv')]
    | wildcard _ hempty => exact absurd (Option.some.inj (hv.symm.trans (hempty _ hk))) hne
    | none _ hempty => exact absurd (Option.some.inj (hv.symm.trans (hempty _ hk))) hne
  | wildcard hlack hempty hv hne =>
    cases hb with
    | exact hv' hne' => exact (hlack.elim hv' hne').elim
    | regex _ hk' hv' hne' => exact absurd (Option.some.inj (hv'.symm.trans (hempty _ hk'))) hne'
    | wildcard _ _ hv' _ => rw [Option.some.inj (hv.symm.trans hv')]
    | none _ _ hstar => exact (hstar.elim hv hne).elim
  | none hlack hempty hstar =>
    cases hb with
    | exact hv' hne' => exact (hlack.elim hv' hne').elim
    | regex _ hk' hv' hne' => exact absurd (Option.some.inj (hv'.symm.trans (hempty _ hk'))) hne'
    | wildcard _ _ hv' hne' => exact (hstar.elim hv' hne').elim
    | none => rfl

/-! ## Finding the entry -/

theorem mem_regexEntries {e : RegexEntry} :
    e ∈ m.regexEntries ↔ e.key = "re:" ++ e.source ∧ m.get? e.key = some e.value := by
  obtain ⟨key, source, value⟩ := e
  simp only [regexEntries, List.mem_filterMap, Option.map_eq_some_iff, regexSource?_eq_some_iff,
    Prod.exists, RegexEntry.mk.injEq]
  constructor
  · rintro ⟨k, v, mem, s, marked, rfl, rfl, rfl⟩
    exact ⟨marked, get?_eq_some.2 mem⟩
  · rintro ⟨marked, hv⟩
    exact ⟨key, value, get?_eq_some.1 hv, source, marked, rfl, rfl, rfl⟩

theorem regexEntries_ascend (m : RuleMap) : m.regexEntries.Pairwise fun a b => a.key < b.key := by
  refine List.Pairwise.filterMap _ (fun a b lt => ?_) m.ascending
  simp only [Option.map_eq_some_iff]
  rintro _ ⟨_, _, rfl⟩ _ ⟨_, _, rfl⟩
  exact lt

/-- The first entry whose expression is found in the name of a repository. -/
def found? (m : RuleMap) (repo : String) : Option RegexEntry :=
  m.regexEntries.find? fun e => Pattern.found e.source repo

theorem exists_entry {k : String} (held : ∃ v, m.get? k = some v) (found : KeyFound repo k) :
    ∃ e ∈ m.regexEntries, e.key = k ∧ Pattern.found e.source repo = true := by
  obtain ⟨v, hv⟩ := held
  obtain ⟨source, r, rfl, compiled, hit⟩ := found
  exact ⟨⟨_, source, v⟩, mem_regexEntries.2 ⟨rfl, hv⟩, rfl, Pattern.found_iff.2 ⟨r, compiled, hit⟩⟩

theorem keyFound_of_mem {e : RegexEntry} (mem : e ∈ m.regexEntries)
    (hit : Pattern.found e.source repo = true) : KeyFound repo e.key := by
  obtain ⟨r, compiled, found⟩ := Pattern.found_iff.1 hit
  exact ⟨e.source, r, (mem_regexEntries.1 mem).1, compiled, found⟩

/-- No key that is found is less than one before which none is found. -/
theorem encode_le_of_missed {e : RegexEntry} {before after : List RegexEntry}
    (split : m.regexEntries = before ++ e :: after)
    (missed : ∀ b ∈ before, Pattern.found b.source repo = false) {k : String}
    (held : ∃ v, m.get? k = some v) (found : KeyFound repo k) :
    Utf8.encode e.key ≤ Utf8.encode k := by
  obtain ⟨e', mem, rfl, hit⟩ := exists_entry held found
  have ascend := m.regexEntries_ascend
  rw [split] at mem ascend
  rw [Text.Utf8.encode_le_encode_iff]
  -- Entries before `e` are not found, and those after it have greater keys.
  rcases List.mem_append.1 mem with hb | hb
  · exact absurd hit (by simpa using missed e' hb)
  · rcases List.mem_cons.1 hb with rfl | ha
    · exact String.le_refl _
    · have := (List.pairwise_cons.1 (List.pairwise_append.1 ascend).2.1).1 e' ha
      exact String.not_lt.1 (String.lt_asymm this)

theorem found?_eq_some {e : RegexEntry} (h : m.found? repo = some e) :
    m.FirstFound repo e.key ∧ m.get? e.key = some e.value := by
  obtain ⟨hit, before, after, split, missed⟩ := List.find?_eq_some_iff_append.1 h
  have mem : e ∈ m.regexEntries := split ▸ List.mem_append_right _ List.mem_cons_self
  have hv := (mem_regexEntries.1 mem).2
  exact ⟨⟨⟨_, hv⟩, keyFound_of_mem mem hit, fun k held found =>
    encode_le_of_missed split (by simpa using missed) held found⟩, hv⟩

theorem found?_eq_none (h : m.found? repo = none) (k : String) : ¬ m.FirstFound repo k := by
  intro hk
  obtain ⟨e, mem, -, hit⟩ := exists_entry hk.held hk.found
  exact List.find?_eq_none.1 h e mem hit

/-- The entry under `*`. -/
def wildcard? (m : RuleMap) : Option Selected :=
  (m.getNonEmpty? wildcardKey).map fun v => ⟨wildcardKey, v, .wildcard⟩

/-- The entry that applies to a repository. -/
def selected (m : RuleMap) (repo : String) : Option Selected :=
  match m.getNonEmpty? repo with
  | some v => some ⟨repo, v, .exact⟩
  | none =>
    match m.found? repo with
    | some e => if e.value = "" then m.wildcard? else some ⟨e.key, e.value, .regex⟩
    | none => m.wildcard?

theorem getNonEmpty?_eq_some {k v : String} :
    m.getNonEmpty? k = some v ↔ m.get? k = some v ∧ v ≠ "" := by
  rw [getNonEmpty?, Option.filter_eq_some_iff, decide_eq_true_iff]

theorem getNonEmpty?_eq_none {k : String} : m.getNonEmpty? k = none ↔ m.Lacks k := by
  rw [getNonEmpty?, Option.filter_eq_none_iff]
  simp only [decide_eq_true_eq, not_not]
  rfl

theorem selects_wildcard? (hlack : m.Lacks repo)
    (hempty : ∀ k, m.FirstFound repo k → m.get? k = some "") : m.Selects repo m.wildcard? := by
  unfold wildcard?
  cases e : m.getNonEmpty? wildcardKey with
  | none => exact .none hlack hempty (getNonEmpty?_eq_none.1 e)
  | some v =>
    obtain ⟨hv, hne⟩ := getNonEmpty?_eq_some.1 e
    exact .wildcard hlack hempty hv hne

theorem selects_selected (m : RuleMap) (repo : String) : m.Selects repo (m.selected repo) := by
  unfold selected
  split
  · next v e =>
    obtain ⟨hv, hne⟩ := getNonEmpty?_eq_some.1 e
    exact .exact hv hne
  · next e =>
    have hlack := getNonEmpty?_eq_none.1 e
    split
    · next e found =>
      obtain ⟨hk, hv⟩ := found?_eq_some found
      split
      · next empty =>
        exact selects_wildcard? hlack fun k hk' => by rw [hk'.unique hk, hv, empty]
      · next hne => exact .regex hlack hk hv hne
    · next missing =>
      exact selects_wildcard? hlack fun k hk => absurd hk (found?_eq_none missing k)

theorem selects_iff {entry : Option Selected} : m.Selects repo entry ↔ m.selected repo = entry :=
  ⟨fun h => (selects_selected m repo).unique h, fun h => h ▸ selects_selected m repo⟩

/-- The entry that applies is one of the map, and its value is not empty. -/
theorem held_of_selected {e : Selected} (h : m.selected repo = some e) :
    m.get? e.key = some e.value ∧ e.value ≠ "" := by
  have selects := m.selects_selected repo
  rw [h] at selects
  cases selects with
  | exact held hne => exact ⟨held, hne⟩
  | regex _ _ held hne => exact ⟨held, hne⟩
  | wildcard _ _ held hne => exact ⟨held, hne⟩

/-! ## Broken keys -/

theorem FirstFound.congr {m' : RuleMap} {bad : String} (hbad : KeyBroken bad)
    (same : ∀ k, k ≠ bad → m'.get? k = m.get? k) {k : String} (h : m.FirstFound repo k) :
    m'.FirstFound repo k := by
  have sound : ∀ {k}, KeyFound repo k → k ≠ bad := fun hk e => hbad.not_found (e ▸ hk)
  refine ⟨?_, h.found, fun k' held found => h.least k' ?_ found⟩
  · rw [same k (sound h.found)]
    exact h.held
  · rw [← same k' (sound found)]
    exact held

/-- The value under a broken key counts for the repository of that name alone. -/
theorem Selects.congr {m' : RuleMap} {bad : String} (hbad : KeyBroken bad) (hne : bad ≠ repo)
    (same : ∀ k, k ≠ bad → m'.get? k = m.get? k) {entry : Option Selected}
    (h : m.Selects repo entry) : m'.Selects repo entry := by
  have lacks : ∀ {k}, k ≠ bad → m.Lacks k → m'.Lacks k := fun hk hl v hv => by
    rw [same _ hk] at hv
    exact hl v hv
  have sound : ∀ {k}, m.FirstFound repo k → k ≠ bad := fun hk e => hbad.not_found (e ▸ hk.found)
  have empty : (∀ k, m.FirstFound repo k → m.get? k = some "") →
      ∀ k, m'.FirstFound repo k → m'.get? k = some "" := fun h k hk => by
    have hk := hk.congr hbad fun k h => (same k h).symm
    rw [same k (sound hk)]
    exact h k hk
  cases h with
  | exact hv hne' => exact .exact ((same _ hne.symm).trans hv) hne'
  | regex hl hk hv hne' =>
    exact .regex (lacks hne.symm hl) (hk.congr hbad same) ((same _ (sound hk)).trans hv) hne'
  | wildcard hl he hv hne' =>
    exact .wildcard (lacks hne.symm hl) (empty he) ((same _ hbad.ne_star.symm).trans hv) hne'
  | none hl he hs =>
    exact .none (lacks hne.symm hl) (empty he) (lacks hbad.ne_star.symm hs)

end RuleMap

/-! ## Selecting in a session -/

open SessionM

theorem yields_findRegexEntry (repo : String) (entries : List RuleMap.RegexEntry) :
    Yields (findRegexEntry repo entries)
      (entries.find? fun e => Pattern.found e.source repo) [] := by
  induction entries with
  | nil => exact .pure _
  | cons e entries ih =>
    refine (yields_compile e.source).bind_nil ?_
    rw [List.find?_cons]
    unfold Pattern.found
    cases Regex.compile e.source with
    | error fault => exact (yields_logEntry _).bind_nil ih
    | ok r =>
      show Yields (if r.isMatch repo then pure (some e) else findRegexEntry repo entries) _ []
      dsimp only
      cases r.isMatch repo with
      | true => exact .pure _
      | false => exact ih

theorem yields_selectWildcard (m : RuleMap) (repo : String) :
    Yields (selectWildcard m repo) m.wildcard? [] := by
  unfold selectWildcard RuleMap.wildcard?
  cases m.getNonEmpty? wildcardKey with
  | none => exact .pure _
  | some v => exact (yields_logEntry _).bind_nil (.pure _)

theorem yields_selectEntry (m : RuleMap) (repo : String) :
    Yields (selectEntry m repo) (m.selected repo) [] := by
  unfold selectEntry RuleMap.selected
  cases m.getNonEmpty? repo with
  | some v => exact (yields_logEntry _).bind_nil (.pure _)
  | none =>
    refine (yields_findRegexEntry repo m.regexEntries).bind_nil ?_
    unfold RuleMap.found?
    cases m.regexEntries.find? fun e => Pattern.found e.source repo with
    | none => exact yields_selectWildcard m repo
    | some e =>
      dsimp only
      split
      · exact yields_selectWildcard m repo
      · exact (yields_logEntry _).bind_nil (.pure _)

/-- Selecting an entry comes to the one that applies. A broken key counts for no other repository,
no entry but the one of the first key found is selected for its expression, and an empty value
under the name of the repository is passed over. -/
theorem selectEntry_precedence (m : RuleMap) (repo : String) {s : Session}
    (h : s.cache.Reachable) :
    (∀ entry, m.Selects repo entry ↔ (selectEntry m repo s).1 = entry) ∧
    (∀ (m' : RuleMap) (bad : String), KeyBroken bad → bad ≠ repo →
      (∀ k, k ≠ bad → m'.get? k = m.get? k) →
      (selectEntry m' repo s).1 = (selectEntry m repo s).1) ∧
    (∀ k entry, m.FirstFound repo k → (selectEntry m repo s).1 = some entry →
      entry.source = .regex → entry.key = k) ∧
    (∀ k v, m.get? repo = some "" → m.FirstFound repo k → m.get? k = some v → v ≠ "" →
      (selectEntry m repo s).1 = some ⟨k, v, .regex⟩) := by
  rw [(yields_selectEntry m repo).value h]
  refine ⟨fun entry => RuleMap.selects_iff, fun m' bad hbad hne same => ?_,
    fun k entry hk e source => ?_, fun k v hrepo hk hv hne => ?_⟩
  · rw [(yields_selectEntry m' repo).value h]
    exact RuleMap.selects_iff.1 ((m.selects_selected repo).congr hbad hne same)
  · have selects := m.selects_selected repo
    rw [e] at selects
    cases selects with
    | exact => cases source
    | wildcard => cases source
    | regex _ hk' _ _ => exact hk'.unique hk
  · refine RuleMap.selects_iff.1 (.regex (fun w hw => ?_) hk hv hne)
    exact Option.some.inj (hw.symm.trans hrepo)

/-- A broken key, an empty value under the first key that is found, and two that come after it. -/
def exampleRules : RuleMap := .ofList [("*", "c"), ("re:w", "b"), ("re:^w", ""), ("re:(", "a")]

theorem selectEntry_precedence_widgets :
    let s : Session := ⟨(PatternCache.fresh.compile "(").2, .logging, []⟩
    s.cache.Reachable ∧ exampleRules.Selects "widgets" (some ⟨"*", "c", .wildcard⟩) ∧
    exampleRules.FirstFound "widgets" "re:^w" ∧ KeyBroken "re:(" ∧
    (selectEntry (exampleRules.insert "re:(" "d") "widgets" s).1 =
      (selectEntry exampleRules "widgets" s).1 := by
  intro s
  have h : s.cache.Reachable := .compile "(" .fresh
  obtain ⟨selects, unaffected, -⟩ := selectEntry_precedence exampleRules "widgets" h
  have fails : (Regex.compile "(").toBool = false := by decide +kernel
  have broken : KeyBroken "re:(" := ⟨"(", rfl, fun r e => by rw [e] at fails; cases fails⟩
  have first : exampleRules.found? "widgets" = some ⟨"re:^w", "^w", ""⟩ := by decide +kernel
  refine ⟨h, (selects _).2 (by decide +kernel), (RuleMap.found?_eq_some first).1, broken, ?_⟩
  refine unaffected _ "re:(" broken (by decide) fun k hk => ?_
  rw [RuleMap.get?_insert, if_neg hk]

end ClaExemption
