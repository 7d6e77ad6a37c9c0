import ClaExemption.Proofs.Lint.Complete

/-!
# Which problems are of no consequence

The check of a map looks at all parts of an alternative, the matcher at the
first three alone. So the problems listed are those of the expressions that are
in force (`RuleMap.InForce`) and of those that trail behind the parts that are
read (`RuleMap.Trails`). `lint_alarms_iff` says so, and for which maps each
problem listed is one of an expression in force.
-/

namespace ClaExemption

open Text (Cut)

/-- The parts that the check looks at are those of the alternatives. -/
theorem mem_valueParts_iff {value s : String} :
    s ∈ valueParts value ↔ ∃ alternative parts, IsAlternative value alternative ∧
      Cut [';'] alternative parts ∧ s.toList ∈ parts := by
  simp only [valueParts, List.mem_flatMap, List.mem_map, isAlternative_iff, Text.cut_singleton_iff]
  constructor
  · rintro ⟨alternative, listed, p, mem, rfl⟩
    refine ⟨alternative.toList, _, ?_, rfl, ?_⟩
    · rwa [String.ofList_toList]
    · rwa [String.toList_ofList]
  · rintro ⟨alternative, _, listed, rfl, mem⟩
    refine ⟨_, listed, s.toList, ?_, String.ofList_toList⟩
    rwa [String.toList_ofList]

theorem Pattern.parse_eq_regex_iff {s source : String} :
    parse s = .regex source ↔ s = "re:" ++ source := by
  constructor
  · intro h
    rw [← text_parse s, h, text, ofList_regexMark]
  · rintro rfl
    exact parse_regex source

theorem part_eq_marked_iff {parts : List (List Char)} {i : Nat} {source : String} :
    part parts i = "re:" ++ source ↔ parts[i]? = some ("re:" ++ source).toList := by
  rw [part, List.getD_eq_getElem?_getD]
  cases parts[i]? with
  | none => exact iff_of_false (mark_append_ne (by decide)).symm (Option.some_ne_none _).symm
  | some p =>
    rw [Option.getD_some, Option.some.injEq, ← String.toList_inj, String.toList_ofList]

/-- An alternative has the expressions of its first three parts. -/
theorem Triple.regex_mem_parse_iff {alternative : List Char} {parts : List (List Char)}
    (cut : Cut [';'] alternative parts) {source : String} :
    let t := Triple.parse (String.ofList alternative)
    .regex source ∈ [t.login, t.email, t.name] ↔
      ∃ i < 3, parts[i]? = some ("re:" ++ source).toList := by
  intro t
  have read : t = ⟨.parse (part parts 0), .parse (part parts 1), .parse (part parts 2)⟩ :=
    Triple.parse_ofList cut
  have marked : ∀ i, .regex source = Pattern.parse (part parts i) ↔
      parts[i]? = some ("re:" ++ source).toList := fun i => by
    rw [eq_comm, Pattern.parse_eq_regex_iff, part_eq_marked_iff]
  rw [read]
  simp only [List.mem_cons, List.not_mem_nil, or_false, marked]
  constructor
  · rintro (h | h | h)
    · exact ⟨0, by decide, h⟩
    · exact ⟨1, by decide, h⟩
    · exact ⟨2, by decide, h⟩
  · rintro ⟨i, lt, h⟩
    obtain rfl | rfl | rfl : i = 0 ∨ i = 1 ∨ i = 2 := by omega
    · exact .inl h
    · exact .inr (.inl h)
    · exact .inr (.inr h)

namespace RuleMap

/-- The matcher uses an expression: it is the one of a key, or of a pattern in an alternative of a
value. -/
def InForce (m : RuleMap) (source : String) : Prop :=
  (∃ v, m.get? ("re:" ++ source) = some v) ∨
    ∃ key value alternatives t, m.get? key = some value ∧
      Rule.parse .extended value = .extended alternatives ∧ t ∈ alternatives ∧
      .regex source ∈ [t.login, t.email, t.name]

/-- An expression stands in a value, but after the parts of its alternative that are read. -/
def Trails (m : RuleMap) (source : String) : Prop :=
  ∃ key value alternative parts i, m.get? key = some value ∧ IsAlternative value alternative ∧
    Cut [';'] alternative parts ∧ 3 ≤ i ∧ parts[i]? = some ("re:" ++ source).toList

variable {m : RuleMap} {source : String}

/-- What is in force is a key or stands in one of the first three parts of an alternative. -/
theorem inForce_iff :
    m.InForce source ↔ (∃ v, m.get? ("re:" ++ source) = some v) ∨
      ∃ key value alternative parts i, m.get? key = some value ∧
        IsAlternative value alternative ∧ Cut [';'] alternative parts ∧ i < 3 ∧
        parts[i]? = some ("re:" ++ source).toList := by
  refine or_congr_right ⟨?_, ?_⟩
  · rintro ⟨key, value, _, _, held, ⟨⟩, mem, regex⟩
    obtain ⟨alternative, listed, rfl⟩ := List.mem_map.1 mem
    rw [← String.ofList_toList (s := alternative)] at listed regex
    have cut := Text.cut_splitAt ';' alternative.toList
    obtain ⟨i, lt, h⟩ := (Triple.regex_mem_parse_iff cut).1 regex
    exact ⟨key, value, _, _, i, held, isAlternative_iff.2 listed, cut, lt, h⟩
  · rintro ⟨key, value, alternative, parts, i, held, listed, cut, lt, h⟩
    refine ⟨key, value, _, _, held, rfl, List.mem_map_of_mem (isAlternative_iff.1 listed), ?_⟩
    exact (Triple.regex_mem_parse_iff cut).2 ⟨i, lt, h⟩

/-- The problems of a map are those of its expressions in force and of those that trail. -/
theorem mem_lint_iff {p : PatternProblem} :
    p ∈ m.lint ↔ Regex.compile p.source = .error p.fault ∧
      (m.InForce p.source ∨ m.Trails p.source) := by
  rw [mem_lint, inForce_iff]
  simp only [Regex.problem?_eq_some_iff, regexSource?_eq_some_iff]
  constructor
  · rintro ⟨key, value, _, _, held, mem, rfl, rfl, fails⟩
    refine ⟨fails, ?_⟩
    rcases List.mem_cons.1 mem with rfl | mem
    · exact .inl (.inl ⟨value, held⟩)
    · obtain ⟨alternative, parts, listed, cut, mem⟩ := mem_valueParts_iff.1 mem
      obtain ⟨i, h⟩ := List.mem_iff_getElem?.1 mem
      rcases Nat.lt_or_ge i 3 with lt | ge
      · exact .inl (.inr ⟨key, value, alternative, parts, i, held, listed, cut, lt, h⟩)
      · exact .inr ⟨key, value, alternative, parts, i, held, listed, cut, ge, h⟩
  · have listed : ∀ {key value alternative parts} {i : Nat}, m.get? key = some value →
        IsAlternative value alternative → Cut [';'] alternative parts →
        parts[i]? = some ("re:" ++ p.source).toList → "re:" ++ p.source ∈ key :: valueParts value :=
      fun _ listed cut h => List.mem_cons_of_mem _
        (mem_valueParts_iff.2 ⟨_, _, listed, cut, List.mem_of_getElem? h⟩)
    rintro ⟨fails, (⟨v, held⟩ | ⟨key, value, _, _, _, held, listed', cut, -, h⟩) |
      ⟨key, value, _, _, _, held, listed', cut, -, h⟩⟩
    · exact ⟨_, v, _, _, held, List.mem_cons_self, rfl, rfl, fails⟩
    · exact ⟨key, value, _, _, held, listed held listed' cut h, rfl, rfl, fails⟩
    · exact ⟨key, value, _, _, held, listed held listed' cut h, rfl, rfl, fails⟩

end RuleMap

/-- The check of a map lists the problems of the expressions that do not compile and are in force,
or trail behind the parts of an alternative that are read. So every problem is one of an expression
in force exactly if each broken expression that trails is in force elsewhere. -/
theorem lint_alarms_iff (m : RuleMap) :
    (∀ p, p ∈ m.lint ↔ Regex.compile p.source = .error p.fault ∧
      (m.InForce p.source ∨ m.Trails p.source)) ∧
    ((∀ p ∈ m.lint, m.InForce p.source) ↔
      ∀ source fault, Regex.compile source = .error fault → m.Trails source →
        m.InForce source) := by
  refine ⟨fun p => RuleMap.mem_lint_iff, fun sound source fault fails trails => ?_,
    fun elsewhere p mem => ?_⟩
  · exact sound ⟨source, fault⟩ (RuleMap.mem_lint_iff.2 ⟨fails, .inr trails⟩)
  · obtain ⟨fails, inForce | trails⟩ := RuleMap.mem_lint_iff.1 mem
    · exact inForce
    · exact elsewhere _ _ fails trails

/-- A fourth part that does not compile is listed, although no pattern is read from it. -/
theorem trailing_part_listed :
    let m : RuleMap := .ofList [("*", "a;b;c;re:(")]
    m.lint.map (·.source) = ["("] ∧ ¬ m.InForce "(" := by
  intro m
  refine ⟨by decide +kernel, ?_⟩
  have entries : m.entries = [("*", "a;b;c;re:(")] := by decide +kernel
  have read : Rule.parse .extended "a;b;c;re:(" =
      .extended [⟨.exact "a", .exact "b", .exact "c"⟩] := by decide +kernel
  rintro (⟨v, held⟩ | ⟨key, value, alternatives, t, held, parsed, mem, regex⟩)
  · rw [RuleMap.get?_eq_some, entries, List.mem_singleton] at held
    exact mark_append_ne (by decide) (Prod.mk.inj held).1
  · rw [RuleMap.get?_eq_some, entries, List.mem_singleton] at held
    cases held
    cases read.symm.trans parsed
    cases List.mem_singleton.1 mem
    simp at regex

end ClaExemption
