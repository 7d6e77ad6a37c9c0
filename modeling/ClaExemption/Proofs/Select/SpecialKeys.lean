import ClaExemption.Proofs.Select.Precedence

/-!
# Special keys and names like them

The key `*` and the keys that are marked as expressions stand for many names. A
selected entry tells of its source what its key says (`Selected.Agrees`), unless
the name of the repository is itself like such a key: what is under the name
comes first, so the entry is then taken for one of that very name, whether or
not the expression would be found in it (`agrees_iff`).
`special_keys_agree_iff_unnamed` says for which names this cannot happen.
-/

namespace ClaExemption

/-- A key stands for more than one name: it is that for every repository, or marked as an
expression. -/
def Special (key : String) : Prop := key = "*" ∨ ∃ source, key = "re:" ++ source

/-- A key cannot be of both special kinds. -/
theorem star_not_marked : ¬ ∃ source, "*" = "re:" ++ source := fun ⟨_, marked⟩ =>
  mark_append_ne (by decide) marked.symm

/-- A selected entry tells of its source what its key says, and a marked expression is found in
the name of the repository. -/
structure Selected.Agrees (e : Selected) (repo : String) : Prop where
  wildcard : e.source = .wildcard ↔ e.key = "*"
  regex : e.source = .regex ↔ ∃ source, e.key = "re:" ++ source
  found : (∃ source, e.key = "re:" ++ source) → KeyFound repo e.key
  exact : e.source = .exact ↔ ¬ Special e.key ∧ e.key = repo

namespace RuleMap

variable {m : RuleMap} {repo : String} {e : Selected}

/-- An entry under the name of the repository tells so, which its key says if it is not special. -/
theorem agrees_exact_iff {v : String} :
    (⟨repo, v, .exact⟩ : Selected).Agrees repo ↔ ¬ Special repo := by
  constructor
  · intro agrees
    exact (agrees.exact.1 rfl).1
  · intro plain
    have star : repo ≠ "*" := fun h => plain (.inl h)
    have marked : ¬ ∃ source, repo = "re:" ++ source := fun h => plain (.inr h)
    refine ⟨⟨nofun, fun h => ?_⟩, ⟨nofun, fun h => ?_⟩, fun h => ?_, fun _ => ⟨plain, rfl⟩,
      fun _ => rfl⟩
    · exact absurd h star
    · exact absurd h marked
    · exact absurd h marked

theorem agrees_regex {k v : String} (found : KeyFound repo k) :
    (⟨k, v, .regex⟩ : Selected).Agrees repo := by
  have marked : ∃ source, k = "re:" ++ source := by
    obtain ⟨source, _, e, -⟩ := found
    exact ⟨source, e⟩
  refine ⟨⟨nofun, fun h => ?_⟩, ⟨fun _ => marked, fun _ => rfl⟩, fun _ => found,
    ⟨nofun, fun h => ?_⟩⟩
  · obtain rfl : k = "*" := h
    exact absurd marked star_not_marked
  · exact absurd (.inr marked) h.1

theorem agrees_wildcard {v : String} : (⟨"*", v, .wildcard⟩ : Selected).Agrees repo := by
  refine ⟨⟨fun _ => rfl, fun _ => rfl⟩, ⟨nofun, fun h => ?_⟩, fun h => ?_, ⟨nofun, fun h => ?_⟩⟩
  · exact absurd h star_not_marked
  · exact absurd h star_not_marked
  · exact absurd (.inl rfl) h.1

/-- An entry agrees with its key unless there is a value under the name of the repository and that
name is like a special key. -/
theorem agrees_iff (h : m.selected repo = some e) :
    e.Agrees repo ↔ (Special repo → m.Lacks repo) := by
  have selects := m.selects_selected repo
  rw [h] at selects
  cases selects with
  | exact held hne =>
    rw [agrees_exact_iff]
    exact ⟨fun plain special => (plain special).elim, fun h special => (h special).elim held hne⟩
  | regex lacks first => exact ⟨fun _ _ => lacks, fun _ => agrees_regex first.found⟩
  | wildcard lacks => exact ⟨fun _ _ => lacks, fun _ => agrees_wildcard⟩

theorem agrees_of_ne (h : m.selected repo = some e) (other : e.key ≠ repo) : e.Agrees repo := by
  have selects := m.selects_selected repo
  rw [h] at selects
  cases selects with
  | exact => exact (other rfl).elim
  | regex _ first => exact agrees_regex first.found
  | wildcard => exact agrees_wildcard

/-- The map of one entry selects it for the repository of its key. -/
theorem selected_singleton {v : String} (hne : v ≠ "") :
    (ofList [(repo, v)]).selected repo = some ⟨repo, v, .exact⟩ := by
  have held : (ofList [(repo, v)]).get? repo = some v := by
    show (empty.insert repo v).get? repo = some v
    rw [get?_insert, if_pos rfl]
  exact selects_iff.1 (.exact held hne)

end RuleMap

open RuleMap

/-- The entry that is selected for the repository of a full name agrees with the kind of its key
exactly if the name is not like a special key or there is no value under it. An entry of another key
always agrees, so its expression is found, and it is the names like special keys alone for which
there is a map whose entry does not agree. -/
theorem special_keys_agree_iff_unnamed (full : String) {s : Session} (h : s.cache.Reachable) :
    let repo := repositoryName full
    (∀ (m : RuleMap) (e : Selected), (selectEntry m repo s).1 = some e →
      (e.Agrees repo ↔ (Special repo → m.Lacks repo)) ∧ (e.key ≠ repo → e.Agrees repo)) ∧
    ((∀ (m : RuleMap) (e : Selected), (selectEntry m repo s).1 = some e → e.Agrees repo) ↔
      ¬ Special repo) := by
  intro repo
  have selects : ∀ m : RuleMap, (selectEntry m repo s).1 = m.selected repo := fun m =>
    (yields_selectEntry m repo).value h
  simp only [selects]
  refine ⟨fun m e selected => ⟨agrees_iff selected, agrees_of_ne selected⟩, fun agree => ?_,
    fun plain m e selected => (agrees_iff selected).2 fun special => (plain special).elim⟩
  exact agrees_exact_iff.1 (agree _ _ (selected_singleton (v := "*") (by decide)))

theorem special_keys_agree_iff_unnamed_widgets :
    let s : Session := ⟨.fresh, .logging, []⟩
    s.cache.Reachable ∧
    (selectEntry exampleRules (repositoryName "acme/widgets") s).1 = some ⟨"*", "c", .wildcard⟩ ∧
    (⟨"*", "c", .wildcard⟩ : Selected).Agrees (repositoryName "acme/widgets") := by
  intro s
  have h : s.cache.Reachable := .fresh
  have selected : (selectEntry exampleRules (repositoryName "acme/widgets") s).1
      = some ⟨"*", "c", .wildcard⟩ := by decide +kernel
  have other : "*" ≠ repositoryName "acme/widgets" := by decide +kernel
  exact ⟨h, selected, ((special_keys_agree_iff_unnamed "acme/widgets" h).1 _ _ selected).2 other⟩

/-- Under names like its keys a map has entries that are taken literally, and one of them is applied
although its expression is not found in the name. -/
theorem special_names_taken_literally :
    let s : Session := ⟨.fresh, .logging, []⟩
    (selectEntry (.ofList [("*", "bob;;")]) (repositoryName "acme/*") s).1
      = some ⟨"*", "bob;;", .exact⟩ ∧
    ¬ (⟨"*", "bob;;", .exact⟩ : Selected).Agrees (repositoryName "acme/*") ∧
    (selectEntry (.ofList [("re:^w", "bob;;")]) (repositoryName "acme/re:^w") s).1
      = some ⟨"re:^w", "bob;;", .exact⟩ ∧
    ¬ KeyFound (repositoryName "acme/re:^w") "re:^w" := by
  intro s
  have star : repositoryName "acme/*" = "*" := by decide +kernel
  refine ⟨by decide +kernel, fun agrees => ?_, by decide +kernel, ?_⟩
  · rw [star] at agrees
    exact agrees_exact_iff.1 agrees (.inl rfl)
  · rintro ⟨source, r, marked, compiled, hit⟩
    have expr : regexSource? "re:^w" = some "^w" := by decide +kernel
    obtain rfl : "^w" = source :=
      Option.some.inj (expr.symm.trans (regexSource?_eq_some_iff.2 marked))
    have missed : Pattern.found "^w" (repositoryName "acme/re:^w") = false := by decide +kernel
    rw [Pattern.found_iff.2 ⟨r, compiled, hit⟩] at missed
    cases missed

end ClaExemption
