import ClaExemption.Proofs.Rule.Alternatives

/-!
# When a rule can be read back

A rule is shown with all parts of its alternatives, bars between them and square
brackets around. A rule that was read from a value (`Rule.Plain`) is read back as
what the texts of its alternatives say, each by itself, or without white space at
the end of its email (`Rule.reread`, `Rule.parse_text_parse`). That is the same
rule if these texts have no pair of bars and do not end with white space
(`Rule.Legible`), and it can be read back in turn (`parse_text_eq_iff_legible`).
-/

namespace ClaExemption

open Text (Cut isBlank trimChars trimRight)

/-! ## One pattern -/

/-- The text of a pattern ends with white space. -/
def Pattern.EndsBlank (p : Pattern) : Prop :=
  ∃ c, p.text.toList.getLast? = some c ∧ isBlank c = true

/-- The text of a pattern does not begin with white space. -/
def Pattern.Flush (p : Pattern) : Prop :=
  ∀ c, p.text.toList.head? = some c → isBlank c = false

-- Comparing this with another pattern must not run the reader.
/-- What is read from the text of a pattern without white space at its end. -/
@[irreducible]
def Pattern.reread (p : Pattern) : Pattern := .parse (String.ofList (trimRight p.text.toList))

theorem Pattern.text_reread (p : Pattern) : p.reread.text.toList = trimRight p.text.toList := by
  rw [reread, text_parse, String.toList_ofList]

theorem Pattern.not_endsBlank_reread (p : Pattern) : ¬ p.reread.EndsBlank := by
  rintro ⟨c, last, blank⟩
  rw [text_reread] at last
  exact Bool.false_ne_true ((Text.not_isBlank_getLast_trimRight last).symm.trans blank)

/-- A pattern that was read from a part of a value: it is what its text says, and has no
semicolon. -/
structure Pattern.Plain (p : Pattern) : Prop where
  readable : parse p.text = p
  one : ';' ∉ p.text.toList

theorem Pattern.plain_parse {s : List Char} (one : ';' ∉ s) : (parse (String.ofList s)).Plain := by
  refine ⟨by rw [text_parse], ?_⟩
  rwa [text_parse, String.toList_ofList]

theorem Pattern.Plain.plain_reread {p : Pattern} (h : p.Plain) : p.reread.Plain := by
  have shorter := Text.trimRight_prefix p.text.toList
  rw [reread]
  exact plain_parse fun mem => h.one (shorter.subset mem)

theorem Pattern.Plain.reread_eq_self_iff {p : Pattern} (h : p.Plain) :
    p.reread = p ↔ ¬ p.EndsBlank := by
  constructor
  · intro same
    exact same ▸ p.not_endsBlank_reread
  · intro ending
    have kept : trimRight p.text.toList = p.text.toList := by
      refine Text.trimRight_eq_self fun c last => ?_
      exact Bool.eq_false_iff.2 fun blank => ending ⟨c, last, blank⟩
    rw [reread, kept, String.ofList_toList, h.readable]

/-! ## One alternative -/

namespace Triple

/-- The patterns of an alternative have no pair of bars in their texts, and that for the name does
not end with white space. -/
structure Legible (t : Triple) : Prop where
  whole : ∀ p ∈ [t.login, t.email, t.name], ¬ ['|', '|'] <:+: p.text.toList
  name : ¬ t.name.EndsBlank

/-- An alternative that was read from a trimmed text. -/
structure Plain (t : Triple) : Prop where
  login : t.login.Plain
  email : t.email.Plain
  name : t.name.Plain
  flush : t.login.Flush

/-- The alternatives that are read from the text of one. -/
def reread (t : Triple) : List Triple :=
  (trimmedPieces t.text.toList).map fun p => .parse (String.ofList p)

theorem reread_ne_nil (t : Triple) : t.reread ≠ [] :=
  List.map_eq_nil_iff.not.2 (trimmedPieces_ne_nil _)

theorem plain_parse (s : List Char) : (Triple.parse (String.ofList (trimChars s))).Plain := by
  obtain ⟨login, parts, cut⟩ := Text.exists_cut ';' (trimChars s)
  have plain := fun i => Pattern.plain_parse (forall_part cut.not_mem List.not_mem_nil i)
  rw [parse_ofList cut]
  refine ⟨plain 0, plain 1, plain 2, fun c first => ?_⟩
  rw [Pattern.text_parse, part, String.toList_ofList, List.getD_cons_zero] at first
  exact not_isBlank_head_of_cut cut first

theorem toList_text (t : Triple) :
    t.text.toList = t.login.text.toList ++ ';' :: (t.email.text.toList ++ ';' :: t.name.text.toList) := by
  simp [text, String.toList_append]

variable {t : Triple}

theorem whole_text_iff :
    ¬ ['|', '|'] <:+: t.text.toList ↔
      ∀ p ∈ [t.login, t.email, t.name], ¬ ['|', '|'] <:+: p.text.toList := by
  have apart : ';' ∉ ['|', '|'] := by decide
  rw [toList_text, Text.infix_append_cons_iff apart, Text.infix_append_cons_iff apart]
  simp

theorem Plain.cut_text (h : t.Plain) :
    Cut [';'] t.text.toList [t.login.text.toList, t.email.text.toList, t.name.text.toList] := by
  rw [toList_text]
  exact .of_not_mem h.login.one (.of_not_mem h.email.one (.alone h.name.one))

/-- Reading the text of an alternative as it stands gives the alternative. -/
theorem Plain.parse_text (h : t.Plain) : Triple.parse t.text = t := by
  rw [← String.ofList_toList (s := t.text), parse_ofList h.cut_text]
  simp [part, h.login.readable, h.email.readable, h.name.readable]

/-- Without bars, all that is lost is white space at the end. -/
theorem Plain.reread_of_whole (h : t.Plain) (whole : ¬ ['|', '|'] <:+: t.text.toList) :
    t.reread = [{ t with name := t.name.reread }] := by
  have name := h.name.plain_reread
  have plain : ({ t with name := t.name.reread } : Triple).Plain :=
    ⟨h.login, h.email, name, h.flush⟩
  have trimmed :
      trimChars t.text.toList = (Triple.text { t with name := t.name.reread }).toList := by
    rw [toList_text, toList_text, Text.trimChars_append_cons rfl, Text.trimRight_append_cons rfl,
      Text.dropWhile_isBlank_eq_self h.flush, Pattern.text_reread]
  rw [reread, trimmedPieces_of_whole whole, List.map_singleton, trimmed, String.ofList_toList,
    plain.parse_text]

/-- An alternative is read back from its text exactly if it is legible. -/
theorem Plain.reread_eq_self_iff (h : t.Plain) : t.reread = [t] ↔ t.Legible := by
  by_cases whole : ['|', '|'] <:+: t.text.toList
  · refine iff_of_false (fun same => ?_) fun legible => whole_text_iff.2 legible.whole whole
    obtain ⟨p, pieces, -⟩ := List.map_eq_singleton_iff.1 same
    exact not_infix_of_trimmedPieces pieces whole
  · rw [h.reread_of_whole whole, List.singleton_inj]
    constructor
    · intro same
      have names := congrArg Triple.name same
      exact ⟨whole_text_iff.1 whole, h.name.reread_eq_self_iff.1 names⟩
    · intro legible
      rw [h.name.reread_eq_self_iff.2 legible.name]

/-- A piece of the text of an alternative has no more parts than the alternative. -/
theorem Plain.length_le_three (h : t.Plain) {s : List Char} {parts : List (List Char)}
    (within : s <:+: t.text.toList) (cut : Cut [';'] s parts) : parts.length ≤ 3 := by
  have three := h.cut_text.length_eq
  have count := within.sublist.count_le ';'
  rw [List.length_cons, List.length_cons, List.length_singleton] at three
  rw [cut.length_eq]
  omega

/-- What is read from the text of an alternative is legible. -/
theorem Plain.legible_of_mem_reread (h : t.Plain) {t' : Triple} (mem : t' ∈ t.reread) :
    t'.Legible := by
  obtain ⟨_, trimmed, rfl⟩ := List.mem_map.1 mem
  obtain ⟨piece, listed, rfl⟩ := List.mem_map.1 trimmed
  have bars := Text.cut_splitBars t.text.toList
  have cut := Text.cut_splitAt ';' (trimChars piece)
  have inner := Text.trimChars_infix piece
  rw [parse_ofList cut]
  constructor
  · have whole := forall_part (P := fun p => ¬ ['|', '|'] <:+: p) (fun p hp hi =>
      bars.not_infix piece listed (hi.trans ((cut.infix_of_mem p hp).trans inner))) (by decide)
    simp only [List.forall_mem_cons, Pattern.text_parse, part, String.toList_ofList]
    exact ⟨whole 0, whole 1, whole 2, nofun⟩
  · rintro ⟨c, last, blank⟩
    rw [Pattern.text_parse, part, String.toList_ofList, List.getD_eq_getElem?_getD] at last
    cases third : (Text.splitAt ';' (trimChars piece))[2]? with
    | none =>
      rw [third] at last
      cases last
    | some name =>
      -- There is no fourth part, so the trimmed piece ends with the third one.
      have few := h.length_le_three (inner.trans (bars.infix_of_mem piece listed)) cut
      obtain ⟨before, trimmed⟩ := cut.suffix_of_last third few
      have ending : (trimChars piece).getLast? = some c := by
        rw [third, Option.getD_some] at last
        rw [← trimmed, List.getLast?_append, last]
        rfl
      exact Bool.false_ne_true ((Text.not_isBlank_getLast_trimChars ending).symm.trans blank)

end Triple

/-! ## A rule -/

theorem length_le_length_flatMap {α : Type} {f : α → List α} {items : List α}
    (ne : ∀ a ∈ items, f a ≠ []) : items.length ≤ (items.flatMap f).length := by
  induction items with
  | nil => exact Nat.le_refl 0
  | cons a items ih =>
    obtain ⟨ne, others⟩ := List.forall_mem_cons.1 ne
    have one := List.length_pos_iff.2 ne
    have more := ih others
    rw [List.flatMap_cons, List.length_append, List.length_cons]
    omega

/-- Items that become one or more each make up the same list only if each becomes itself. -/
theorem flatMap_eq_self_iff {α : Type} {f : α → List α} {items : List α}
    (ne : ∀ a ∈ items, f a ≠ []) : items.flatMap f = items ↔ ∀ a ∈ items, f a = [a] := by
  induction items with
  | nil => simp
  | cons a items ih =>
    obtain ⟨ne, others⟩ := List.forall_mem_cons.1 ne
    obtain ⟨b, more, split⟩ := List.exists_cons_of_ne_nil ne
    rw [List.flatMap_cons, List.forall_mem_cons, ← ih others, split, List.cons_append]
    constructor
    · intro same
      obtain ⟨rfl, rest⟩ := List.cons.inj same
      -- The other items leave no room for a second one here.
      have long := length_le_length_flatMap others
      have lengths := congrArg List.length rest
      rw [List.length_append] at lengths
      have none : more = [] := List.eq_nil_of_length_eq_zero (by omega)
      rw [none] at rest ⊢
      exact ⟨rfl, rest⟩
    · rintro ⟨alone, rest⟩
      obtain ⟨rfl, rfl⟩ := List.cons.inj alone
      rw [List.nil_append, rest]

namespace Rule

/-- All alternatives of a rule are legible, or its email, if there is one, does not end with white
space. -/
def Legible : Rule → Prop
  | .extended alternatives => ∀ t ∈ alternatives, t.Legible
  | .simple _ email => ∀ p, email = some p → ¬ p.EndsBlank

/-- A rule as it is read from a value: with plain alternatives, or with the only part or the first
two parts of a trimmed text. -/
inductive Plain : Rule → Prop
  | extended {alternatives : List Triple} : alternatives ≠ [] → (∀ t ∈ alternatives, t.Plain) →
    Plain (.extended alternatives)
  | login {login : Pattern} : login.Plain → trimChars login.text.toList = login.text.toList →
    Plain (.simple login none)
  | email {login email : Pattern} : login.Plain → email.Plain → login.Flush →
    Plain (.simple login (some email))

/-- What is read from the text of a rule. -/
def reread : Rule → Rule
  | .extended alternatives => .extended (alternatives.flatMap Triple.reread)
  | .simple login email => .simple login (email.map Pattern.reread)

theorem plain_parse (grammar : Grammar) (value : String) : (parse grammar value).Plain := by
  cases grammar with
  | extended =>
    have some : (splitAlternatives value).map Triple.parse ≠ [] :=
      List.map_eq_nil_iff.not.2 (splitAlternatives_ne_nil value)
    refine .extended some fun t mem => ?_
    obtain ⟨alternative, listed, rfl⟩ := List.mem_map.1 mem
    rw [← String.ofList_toList (s := alternative)] at listed ⊢
    obtain ⟨s, trimmed⟩ := (isAlternative_iff.2 listed).exists_trimmed
    rw [trimmed]
    exact Triple.plain_parse s
  | simple =>
    obtain ⟨login, parts, cut⟩ := Text.exists_cut ';' (trimChars value.toList)
    have plain : ∀ p ∈ login :: parts, (Pattern.parse (String.ofList p)).Plain := fun p mem =>
      Pattern.plain_parse (cut.not_mem p mem)
    rw [parse_simple_of_cut cut]
    cases parts with
    | nil =>
      refine .login (plain login (by simp)) ?_
      rw [Pattern.text_parse, String.toList_ofList, ← cut.of_alone.1, Text.trimChars_trimChars]
    | cons email parts =>
      refine .email (plain login (by simp)) (plain email (by simp)) fun _ first => ?_
      rw [Pattern.text_parse, String.toList_ofList] at first
      exact not_isBlank_head_of_cut cut first

variable {r : Rule}

/-- The text of a rule is read alternative by alternative, and without white space at the end of the
email. -/
theorem Plain.parse_text (h : r.Plain) : parse r.grammar r.text = r.reread := by
  cases h with
  | @extended alternatives ne plain =>
    show Rule.extended ((splitAlternatives (text (.extended alternatives))).map Triple.parse) = _
    rw [text, splitAlternatives_brackets, String.toList_intercalate,
      trimmedPieces_intercalate (by simpa using ne)]
    simp only [List.flatMap_map, List.map_flatMap, List.map_map]
    rfl
  | @login login plain trimmed =>
    have cut : Cut [';'] (trimChars login.text.toList) [login.text.toList] := by
      rw [trimmed]
      exact .alone plain.one
    show parse .simple login.text = _
    rw [parse_simple_of_cut cut, String.ofList_toList, plain.readable]
    rfl
  | @email login email plain plain' flush =>
    have chars : (login.text ++ ";" ++ email.text).toList =
        login.text.toList ++ ';' :: email.text.toList := by simp [String.toList_append]
    have cut : Cut [';'] (trimChars (login.text ++ ";" ++ email.text).toList)
        [login.text.toList, email.reread.text.toList] := by
      rw [chars, Text.trimChars_append_cons rfl, Text.dropWhile_isBlank_eq_self flush,
        ← Pattern.text_reread]
      exact .of_not_mem plain.one (.alone plain'.plain_reread.one)
    show parse .simple (login.text ++ ";" ++ email.text) = _
    rw [parse_simple_of_cut cut, String.ofList_toList, plain.readable, List.head?_cons,
      Option.map_some, String.ofList_toList, plain'.plain_reread.readable]
    rfl

/-- A rule is read back from its text exactly if it is legible. -/
theorem Plain.reread_eq_self_iff (h : r.Plain) : r.reread = r ↔ r.Legible := by
  cases h with
  | extended ne plain =>
    rw [reread, extended.injEq, flatMap_eq_self_iff fun t _ => t.reread_ne_nil]
    exact forall₂_congr fun t mem => (plain t mem).reread_eq_self_iff
  | login => exact iff_of_true rfl nofun
  | email _ plain =>
    rw [reread, simple.injEq, Option.map_some, Option.some.injEq, plain.reread_eq_self_iff,
      and_iff_right rfl]
    exact ⟨fun ending _ e => Option.some.inj e ▸ ending, fun legible => legible _ rfl⟩

/-- What was read back is legible. -/
theorem Plain.legible_reread (h : r.Plain) : r.reread.Legible := by
  cases h with
  | extended ne plain =>
    intro t' mem
    obtain ⟨t, mem, mem'⟩ := List.mem_flatMap.1 mem
    exact (plain t mem).legible_of_mem_reread mem'
  | login => exact nofun
  | @email login email =>
    show ∀ p, some email.reread = some p → ¬ p.EndsBlank
    exact fun _ same => Option.some.inj same ▸ email.not_endsBlank_reread

theorem grammar_parse (grammar : Grammar) (value : String) :
    (parse grammar value).grammar = grammar := by
  cases grammar with
  | extended => rfl
  | simple => rw [parse_simple, Rule.grammar]

theorem parse_text_parse (grammar : Grammar) (value : String) :
    parse grammar (parse grammar value).text = (parse grammar value).reread := by
  have read := (plain_parse grammar value).parse_text
  rwa [grammar_parse] at read

end Rule

/-- A rule that was read from a value is read back from its text exactly if it is legible. What is
read back is read back unchanged. -/
theorem parse_text_eq_iff_legible (grammar : Grammar) (value : String) :
    let r := Rule.parse grammar value
    let r' := Rule.parse grammar r.text
    (r' = r ↔ r.Legible) ∧ Rule.parse grammar r'.text = r' := by
  intro r r'
  have first : r' = r.reread := Rule.parse_text_parse grammar value
  have second : Rule.parse grammar r'.text = r'.reread := Rule.parse_text_parse grammar r.text
  constructor
  · rw [first]
    exact (Rule.plain_parse grammar value).reread_eq_self_iff
  · have legible : r'.Legible := by
      rw [first]
      exact (Rule.plain_parse grammar value).legible_reread
    rw [second]
    exact (Rule.plain_parse grammar r.text).reread_eq_self_iff.2 legible

/-- Bars outside brackets are no separator, but become one in the text of the rule. -/
example : (Rule.parse .extended "a||b;c ").text = "[a||b;c;]" ∧
    Rule.parse .extended "[a||b;c;]" =
      .extended [⟨.exact "a", .empty, .empty⟩, ⟨.exact "b", .exact "c", .empty⟩] := by
  decide +kernel

end ClaExemption
