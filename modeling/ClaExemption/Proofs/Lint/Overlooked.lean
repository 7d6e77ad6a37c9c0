import ClaExemption.Proofs.Lint.Alarms

/-!
# Which expressions the check of a map overlooks

The check of a map cuts values as the extended grammar does. The simple grammar
takes brackets and bars as they stand, so it may have an expression for the
email that is cut apart in the check, or that the check sees without the bracket
at its end: `Overlooked` says where it stands. No other expression is missed
(`mem_valueParts_or_overlooked`), so these are what resolving in the simple
grammar may still complain of (`simple_complains_iff_overlooked`).
-/

namespace ClaExemption

open SessionM
open Text (Cut isBlank trimChars trimRight)

/-- An expression is the second part of a value in square brackets, and is the last one too or has a
pair of bars. -/
structure Overlooked (value source : String) : Prop where
  bracketed : ∃ inner, trimChars value.toList = '[' :: (inner ++ [']'])
  second : ∃ login rest,
    Cut [';'] (trimChars value.toList) (login :: ("re:" ++ source).toList :: rest) ∧
      (rest = [] ∨ ['|', '|'] <:+: source.toList)

variable {value source : String} {parts : List (List Char)}

/-- What stands between two characters stands so within brackets other than these. -/
theorem exists_eq_of_enclosed {opening closing c d : Char} {inner u p v : List Char}
    (hc : opening ≠ c) (hd : closing ≠ d)
    (h : opening :: (inner ++ [closing]) = u ++ c :: (p ++ d :: v)) :
    ∃ u' v', inner = u' ++ c :: (p ++ d :: v') := by
  match u, h with
  | [], h => exact absurd (List.cons.inj h).1 hc
  | _ :: u, h =>
    have h := (List.cons.inj h).2
    rcases List.eq_nil_or_concat v with rfl | ⟨v, e, rfl⟩
    · have ending : u ++ c :: (p ++ [d]) = (u ++ c :: p) ++ [d] := by simp
      exact absurd (List.cons.inj (List.append_inj' (h.trans ending) rfl).2).1 hd
    · have ending : u ++ c :: (p ++ d :: v.concat e) = (u ++ c :: (p ++ d :: v)) ++ [e] := by simp
      exact ⟨u, v, (List.append_inj' (h.trans ending) rfl).1⟩

/-- A part of a value in square brackets between two others, without a pair of bars, is a part of
an alternative. -/
theorem mem_valueParts_of_between {inner login p next : List Char} {rest : List (List Char)}
    (bracketed : trimChars value.toList = '[' :: (inner ++ [']']))
    (cut : Cut [';'] (trimChars value.toList) (login :: p :: next :: rest))
    (whole : ¬ ['|', '|'] <:+: p) : String.ofList p ∈ valueParts value := by
  have clear : ';' ∉ p := cut.not_mem p (by simp)
  obtain ⟨u, v, enclosed⟩ : ∃ u v, inner = u ++ ';' :: (p ++ ';' :: v) := by
    obtain ⟨v, split⟩ := cut.exists_eq_of_three
    exact exists_eq_of_enclosed (by decide) (by decide) (bracketed.symm.trans split)
  obtain ⟨u, v, mem⟩ := Cut.exists_mem_of_between (by decide) (by decide) whole
    (enclosed ▸ Text.cut_splitBars inner)
  -- Trimming the alternative leaves both semicolons.
  have trimmed : trimChars (u ++ ';' :: (p ++ ';' :: v)) =
      u.dropWhile isBlank ++ ';' :: (p ++ ';' :: trimRight v) := by
    rw [Text.trimChars_append_cons rfl, Text.trimRight_append_cons rfl]
  have cut' := (Text.cut_splitAt ';' (u.dropWhile isBlank)).append_cons
    (Cut.of_not_mem clear (Text.cut_splitAt ';' (trimRight v)))
  rw [← trimmed] at cut'
  refine mem_valueParts_iff.2 ⟨_, _, .listed bracketed (Text.cut_splitBars inner) ?_, cut', ?_⟩
  · exact enclosed ▸ mem
  · rw [String.toList_ofList]
    exact List.mem_append_right _ List.mem_cons_self

/-- An expression for the login or the email of the simple grammar is among the parts that the check
looks at, or is overlooked. -/
theorem mem_valueParts_or_overlooked (cut : Cut [';'] (trimChars value.toList) parts) {i : Nat}
    (lt : i < 2) (h : parts[i]? = some ("re:" ++ source).toList) :
    "re:" ++ source ∈ valueParts value ∨ Overlooked value source := by
  by_cases bracketed : ∃ inner, trimChars value.toList = '[' :: (inner ++ [']'])
  · obtain ⟨inner, bracketed⟩ := bracketed
    match i, lt, parts, h with
    | 0, _, _ :: _, rfl =>
      -- The login begins with the bracket.
      have first := bracketed ▸ cut.first_prefix
      rw [String.toList_append] at first
      exact absurd (List.cons_prefix_cons.1 first).1 (by decide)
    | 1, _, login :: _ :: rest, rfl =>
      by_cases broken : rest = [] ∨ ['|', '|'] <:+: source.toList
      · exact .inr ⟨⟨inner, bracketed⟩, login, rest, cut, broken⟩
      · obtain ⟨more, whole⟩ := not_or.1 broken
        obtain ⟨next, rest, rfl⟩ := List.exists_cons_of_ne_nil more
        have whole : ¬ ['|', '|'] <:+: ("re:" ++ source).toList := by
          rw [String.toList_append]
          simpa [List.infix_cons_iff] using whole
        have mem := mem_valueParts_of_between bracketed cut whole
        rw [String.ofList_toList] at mem
        exact .inl mem
  · refine .inl (mem_valueParts_iff.2 ⟨_, parts, .alone (not_exists.1 bracketed), cut, ?_⟩)
    exact List.mem_of_getElem? h

/-- The expressions that matching in the simple grammar comes to are its first two parts. -/
theorem Rule.exists_part_of_reaches (cut : Cut [';'] (trimChars value.toList) parts) {a : Actor}
    (reaches : (Rule.parse .simple value).Reaches a source) :
    ∃ i < 2, parts[i]? = some ("re:" ++ source).toList := by
  rw [Rule.parse_simple, ← Text.cut_singleton_iff.1 cut, Rule.reaches_simple_iff] at reaches
  obtain ⟨-, seeks | ⟨-, p, second, seeks⟩⟩ := reaches
  · exact ⟨0, by decide, part_eq_marked_iff.1 (Pattern.parse_eq_regex_iff.1 seeks.regex)⟩
  · obtain ⟨q, email, rfl⟩ := Option.map_eq_some_iff.1 second
    refine ⟨1, by decide, email.trans (congrArg some ?_)⟩
    rw [← Pattern.parse_eq_regex_iff.1 seeks.regex, String.toList_ofList]

/-- What matching a value of the map in the simple grammar comes to is covered or overlooked. -/
theorem RuleMap.covers_or_overlooked {m : RuleMap} {key : String} (held : m.get? key = some value)
    {a : Actor} (reaches : (Rule.parse .simple value).Reaches a source) :
    m.Covers source ∨ Overlooked value source := by
  have cut := Text.cut_splitAt ';' (trimChars value.toList)
  obtain ⟨i, lt, h⟩ := Rule.exists_part_of_reaches cut reaches
  refine (mem_valueParts_or_overlooked cut lt h).imp_left fun mem => ?_
  exact m.covers_of_marked held (List.mem_cons_of_mem _ mem) (regexSource?_eq_some_iff.2 rfl)

/-- Each expression that resolving compiles in the simple grammar compiles, or is a problem that the
check of the map lists, or is overlooked in the value that applies. If the check lists none,
resolving complains exactly if it comes, for some actor, to an overlooked expression that does not
compile. -/
theorem simple_complains_iff_overlooked (s : Subject) (m : RuleMap)
    (actors : List (Option Actor)) :
    let repo := repositoryName s.orgRepo
    ∃ tried, Tries (resolve .simple s (some m) actors) tried ∧
      (∀ source ∈ tried, ∀ fault, Regex.compile source = .error fault →
        ⟨source, fault⟩ ∈ m.lint ∨
          ∃ e, m.Selects repo (some e) ∧ Overlooked e.value source) ∧
      (m.lint = [] → ∀ session : Session, session.cache.Reachable →
        ((resolve .simple s (some m) actors session).2.complaints ≠ session.complaints ↔
          ∃ e source fault a, m.Selects repo (some e) ∧ Overlooked e.value source ∧
            Regex.compile source = .error fault ∧ some a ∈ actors ∧
            (Rule.parse .simple e.value).Reaches a source)) := by
  intro repo
  have exactly := triesExactly_resolve s .simple m actors
  have known : ∀ {e a source}, m.Selects repo (some e) →
      (Rule.parse .simple e.value).Reaches a source → m.Covers source ∨ Overlooked e.value source :=
    fun selects reaches => RuleMap.covers_or_overlooked
      (m.held_of_selected (RuleMap.selects_iff.1 selects)).1 reaches
  have ⟨tried, tries, mem⟩ := exactly
  refine ⟨tried, tries, fun source listed fault fails => ?_, fun clean session reachable => ?_⟩
  · have problem := Regex.problem?_of_error fails
    rcases (mem source).1 listed with scans | ⟨e, selects, a, -, reaches⟩
    · exact .inl (scans.covers _ problem)
    · exact (known selects reaches).imp (fun covers => covers _ problem) fun h => ⟨e, selects, h⟩
  · rw [exactly.complaints_ne_iff reachable]
    have sound : ∀ {source fault}, Regex.compile source = .error fault → ¬ m.Covers source :=
      fun fails covers => List.not_mem_nil (clean ▸ covers _ (Regex.problem?_of_error fails))
    constructor
    · rintro ⟨source, fault, scans | ⟨e, selects, a, listed, reaches⟩, fails⟩
      · exact absurd scans.covers (sound fails)
      · have overlooked := (known selects reaches).resolve_left (sound fails)
        exact ⟨e, source, fault, a, selects, overlooked, fails, listed, reaches⟩
    · rintro ⟨e, source, fault, a, selects, -, fails, listed, reaches⟩
      exact ⟨source, fault, .inr ⟨e, selects, a, listed, reaches⟩, fails⟩

/-- In a value with a third part the expression for the email, which has no bars, is not
overlooked. -/
theorem simple_complains_iff_overlooked_whole :
    let m := RuleMap.ofList [("*", "[[bob;re:@x$;*||re:^b;*]")]
    let s : Subject := ⟨"acme/widgets", "p", 0⟩
    let actors := [some (Actor.ofIdentity (some "[[bob") (some "b@x") none)]
    let session : Session := ⟨.fresh, .recording [], []⟩
    m.lint = [] ∧ (resolve .simple s (some m) actors session).2.cache.size = 1 ∧
      (resolve .simple s (some m) actors session).2.complaints = session.complaints := by
  intro m s actors session
  have clean : m.lint = [] := by decide +kernel
  refine ⟨clean, by decide +kernel, not_not.1 fun complaints => ?_⟩
  obtain ⟨tried, -, -, complains⟩ := simple_complains_iff_overlooked s m actors
  obtain ⟨e, source, fault, a, selects, ⟨-, login, rest, cut, broken⟩, -⟩ :=
    (complains clean session .fresh).1 complaints
  have selected : m.selected (repositoryName s.orgRepo) =
      some ⟨"*", "[[bob;re:@x$;*||re:^b;*]", .wildcard⟩ := by decide +kernel
  cases selected.symm.trans (RuleMap.selects_iff.1 selects)
  have parts : Cut [';'] (trimChars "[[bob;re:@x$;*||re:^b;*]".toList)
      ["[[bob".toList, ("re:" ++ "@x$").toList, "*||re:^b".toList, "*]".toList] :=
    Text.cut_singleton_iff.2 (by decide +kernel)
  obtain ⟨email, rfl⟩ := List.cons.inj (List.cons.inj (cut.unique parts)).2
  rw [String.toList_append, String.toList_append, List.append_cancel_left_eq] at email
  rw [email] at broken
  exact absurd broken (by decide +kernel)

/-- The pair of bars within an expression is literal text for the matcher, and cuts the expression
apart for the check. -/
theorem literal_bars_overlooked :
    let m := RuleMap.ofList [("*", "[bob;re:x||*;*;*]")]
    let s : Subject := ⟨"acme/widgets", "p", 0⟩
    let actors := [some (Actor.ofIdentity (some "[bob") (some "b@x") none)]
    let session : Session := ⟨.fresh, .recording [], []⟩
    m.lint = [] ∧ (resolve .simple s (some m) actors session).2.complaints =
      [.text "Invalid regex pattern 'x||*'"] := by
  decide +kernel

end ClaExemption
