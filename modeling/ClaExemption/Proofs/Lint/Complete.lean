import ClaExemption.Lint
import ClaExemption.Proofs.Resolve.Footprint

/-!
# Checking a map finds every problem

What `resolve` compiles in the extended grammar are expressions in the keys of
the map and in the value that applies, among those that `RuleMap.lint` looks at
(`triesOnly_resolve`). So it meets no problem that the check does not list, and
none at all in a map with an empty list (`lint_covers_resolve`). The simple
grammar reads a value as another list of patterns, for which this does not hold.
-/

namespace ClaExemption

open SessionM

variable {m : RuleMap} {P : String → Prop}

/-! ## What the check looks at -/

theorem problemOf?_of_marked {s source : String} (h : regexSource? s = some source) :
    problemOf? s = Regex.problem? source := by
  rw [problemOf?, h]
  rfl

/-- The problems of a map are those of the marked expressions among its keys and the parts of its
values. -/
theorem RuleMap.mem_lint {p : PatternProblem} :
    p ∈ m.lint ↔ ∃ key value s source, m.get? key = some value ∧ s ∈ key :: valueParts value ∧
      regexSource? s = some source ∧ Regex.problem? source = some p := by
  unfold lint
  simp only [List.mem_flatMap, List.mem_filterMap, Prod.exists, get?_eq_some]
  constructor
  · rintro ⟨key, value, held, s, mem, problem⟩
    obtain ⟨source, marked, -⟩ := Option.bind_eq_some_iff.1 problem
    rw [problemOf?_of_marked marked] at problem
    exact ⟨key, value, s, source, held, mem, marked, problem⟩
  · rintro ⟨key, value, s, source, held, mem, marked, problem⟩
    rw [← problemOf?_of_marked marked] at problem
    exact ⟨key, value, held, s, mem, problem⟩

/-- An expression has no problem but one that the check of a map lists. -/
def RuleMap.Covers (m : RuleMap) (source : String) : Prop :=
  ∀ p, Regex.problem? source = some p → p ∈ m.lint

theorem RuleMap.covers_of_marked {key value s source : String} (held : m.get? key = some value)
    (mem : s ∈ key :: valueParts value) (marked : regexSource? s = some source) :
    m.Covers source :=
  fun _ problem => mem_lint.2 ⟨key, value, s, source, held, mem, marked, problem⟩

theorem Pattern.within_parse {s : String} (h : ∀ source, regexSource? s = some source → P source) :
    (Pattern.parse s).Within P := by
  unfold Pattern.parse
  split
  · trivial
  · split
    · trivial
    · split
      · next marked => exact h _ marked
      · trivial

/-- The patterns of an alternative are among its parts, or empty for want of a part. -/
theorem Triple.within_parse {alternative : String}
    (h : ∀ p ∈ Text.splitAt ';' alternative.toList, ∀ source,
      regexSource? (String.ofList p) = some source → P source) :
    (Triple.parse alternative).Within P := by
  have part : ∀ i, (Pattern.parse (part (Text.splitAt ';' alternative.toList) i)).Within P :=
    forall_part (P := fun p => (Pattern.parse (String.ofList p)).Within P)
      (fun p mem => Pattern.within_parse (h p mem))
      (Pattern.within_parse fun _ marked => nomatch marked)
  rw [Triple.parse_eq]
  exact ⟨part 0, part 1, part 2⟩

/-- The patterns of a value of the map are covered. -/
theorem RuleMap.within_of_held {key value : String} (held : m.get? key = some value) :
    ∀ t ∈ (splitAlternatives value).map Triple.parse, t.Within m.Covers := by
  intro t mem
  obtain ⟨alternative, listed, rfl⟩ := List.mem_map.1 mem
  refine Triple.within_parse fun p hp source marked => ?_
  refine covers_of_marked held (List.mem_cons_of_mem _ ?_) marked
  exact List.mem_flatMap.2 ⟨alternative, listed, List.mem_map_of_mem hp⟩

/-! ## What a decision compiles -/

/-- The keys that are looked for are covered, whichever grammar values are read by. -/
theorem RuleMap.Scans.covers {repo source : String} (h : m.Scans repo source) :
    m.Covers source := by
  obtain ⟨value, held⟩ := h.held
  exact m.covers_of_marked held List.mem_cons_self (regexSource?_eq_some_iff.2 rfl)

variable (s : Subject)

/-- Resolving tries no expressions but those that the check of the map covers. -/
theorem triesOnly_resolve (m : RuleMap) (actors : List (Option Actor)) :
    TriesOnly (resolve .extended s (some m) actors) m.Covers := by
  refine (triesExactly_resolve s .extended m actors).only fun source reached => ?_
  rcases reached with scans | ⟨e, selects, a, -, reaches⟩
  · exact scans.covers
  · have held := (m.held_of_selected (RuleMap.selects_iff.1 selects)).1
    obtain ⟨t, comes, reaches⟩ := Rule.reaches_extended_iff.1 reaches
    exact (RuleMap.within_of_held held t comes.mem).of_reaches reaches

/-- Each expression that resolving compiles in the extended grammar, of a key or of the value that
applies, either compiles or is a problem that the check of the map lists. If the check lists none,
resolving complains of none, for any repository and any actors and whatever has been compiled
before. -/
theorem lint_covers_resolve (m : RuleMap) (actors : List (Option Actor)) :
    ∃ tried, Tries (resolve .extended s (some m) actors) tried ∧
      (∀ source ∈ tried, ∀ fault, Regex.compile source = .error fault →
        ⟨source, fault⟩ ∈ m.lint) ∧
      (m.lint = [] → (∀ source ∈ tried, ∃ r, Regex.compile source = .ok r) ∧
        ∀ session : Session, session.cache.Reachable →
          (resolve .extended s (some m) actors session).2.complaints = session.complaints) := by
  obtain ⟨tried, tries, covered⟩ := triesOnly_resolve s m actors
  refine ⟨tried, tries, fun source mem fault fails =>
    covered source mem _ (Regex.problem?_of_error fails), fun clean => ?_⟩
  have sound : ∀ source ∈ tried, Regex.problem? source = none := fun source mem =>
    Option.eq_none_iff_forall_ne_some.2 fun p problem =>
      List.not_mem_nil (clean ▸ covered source mem p problem)
  refine ⟨fun source mem => ?_, fun session reachable => ?_⟩
  · cases e : Regex.compile source with
    | ok r => exact ⟨r, rfl⟩
    | error fault => cases (Regex.problem?_of_error e).symm.trans (sound source mem)
  · rw [tries.complaints reachable, List.filterMap_eq_nil_iff.2 sound]
    exact List.append_nil _

/-- A map with a broken key and a broken pattern in the value that applies. -/
theorem lint_covers_resolve_broken :
    let m := RuleMap.ofList [("re:(", "x"), ("*", "[re:[;*||re:bot$;*;*]")]
    let s : Subject := ⟨"acme/widgets", "p", 0⟩
    let actors := [some (Actor.ofIdentity (some "robot") none none)]
    ∃ tried fault, Tries (resolve .extended s (some m) actors) tried ∧ "[" ∈ tried ∧
      Regex.compile "[" = .error fault ∧ ⟨"[", fault⟩ ∈ m.lint := by
  intro m s actors
  obtain ⟨tried, tries, listed, -⟩ := lint_covers_resolve s m actors
  have mem : "[" ∈ tried := (tries.mem_iff (.recording []) []).2 (by decide +kernel)
  have fails : (Regex.compile "[").toBool = false := by decide +kernel
  cases e : Regex.compile "[" with
  | ok r => rw [e] at fails; cases fails
  | error fault => exact ⟨tried, fault, tries, mem, rfl, listed _ mem _ e⟩

/-- In the simple grammar the brackets of a value are part of its patterns. -/
example :
    (RuleMap.ofList [("*", "[x;re:(]")]).lint.map (·.source) = ["("] ∧
    Rule.parse .simple "[x;re:(]" = .simple (.exact "[x") (some (.regex "(]")) ∧
    (Regex.problem? "(]").isSome = true := by
  decide +kernel

end ClaExemption
