import ClaExemption.Proofs.Text.Cutting
import ClaExemption.Rule.Basic

/-!
# Whom a rule exempts

What the text of a rule says of an actor, without reading the text into a rule
first: `Meets` for one pattern, `Grammar.Exempts` for a whole value.
`Grammar.exempts_iff` shows that reading the value into a `Rule` says the same,
and makes it decidable.
-/

namespace ClaExemption

open Text (Cut trimChars)

theorem ofList_regexMark (source : String) :
    String.ofList (regexMark ++ source.toList) = "re:" ++ source := by
  apply String.ext
  rw [String.toList_ofList, String.toList_append]
  rfl

theorem regexSource?_eq_some_iff {s source : String} :
    regexSource? s = some source ↔ s = "re:" ++ source := by
  rw [regexSource?_eq_some, ofList_regexMark]

theorem mark_append_ne {source s : String} (hs : s.toList.length < 3) : "re:" ++ source ≠ s := by
  rintro rfl
  rw [String.toList_append, List.length_append] at hs
  exact absurd hs (Nat.not_lt.2 (Nat.le_add_right 3 _))

/-! ## One pattern -/

/-- A value, empty if it is missing, meets the text of a pattern. -/
inductive Meets (value : String) : String → Prop
  | any : Meets value "*"
  | empty : value = "" → Meets value ""
  | regex {source : String} {r : Regex} : value ≠ "" → Regex.compile source = .ok r →
    r.isMatch value = true → Meets value ("re:" ++ source)
  | exact : value ≠ "" → value ≠ "*" → (∀ source, value ≠ "re:" ++ source) → Meets value value

/-- A value meets a pattern and, should the pattern be `*`, is there at all. -/
def MeetsPresent (value pattern : String) : Prop :=
  Meets value pattern ∧ (pattern = "*" → value ≠ "")

theorem Pattern.found_iff {source value : String} :
    found source value = true ↔ ∃ r, Regex.compile source = .ok r ∧ r.isMatch value = true := by
  unfold found
  cases Regex.compile source with
  | ok r => simp
  | error fault => simp

theorem Pattern.parse_regex (source : String) : parse ("re:" ++ source) = .regex source := by
  have star : "re:" ++ source ≠ "*" := mark_append_ne (by decide)
  have empty : "re:" ++ source ≠ "" := mark_append_ne (by decide)
  rw [parse, if_neg star, if_neg empty, regexSource?_eq_some_iff.2 rfl]

theorem Pattern.parse_exact {s : String} (h : s ≠ "*") (h' : s ≠ "")
    (unmarked : ∀ source, s ≠ "re:" ++ source) : parse s = .exact s := by
  rw [parse, if_neg h, if_neg h']
  cases e : regexSource? s with
  | none => rfl
  | some source => exact absurd (regexSource?_eq_some_iff.1 e) (unmarked source)

theorem meets_iff {value s : String} : Meets value s ↔ (Pattern.parse s).fits value = true := by
  constructor
  · intro h
    cases h with
    | any => rfl
    | empty h => exact decide_eq_true h
    | regex h compiled found =>
      rw [Pattern.parse_regex, Pattern.fits, Bool.and_eq_true]
      exact ⟨decide_eq_true h, Pattern.found_iff.2 ⟨_, compiled, found⟩⟩
    | exact h star unmarked =>
      rw [Pattern.parse_exact star h unmarked, Pattern.fits, Bool.and_eq_true]
      exact ⟨decide_eq_true h, decide_eq_true rfl⟩
  · intro h
    by_cases star : s = "*"
    · rw [star]
      exact .any
    by_cases empty : s = ""
    · rw [empty] at h ⊢
      exact .empty (of_decide_eq_true h)
    by_cases marked : ∃ source, s = "re:" ++ source
    · obtain ⟨source, rfl⟩ := marked
      rw [Pattern.parse_regex, Pattern.fits, Bool.and_eq_true] at h
      obtain ⟨r, compiled, found⟩ := Pattern.found_iff.1 h.2
      exact .regex (of_decide_eq_true h.1) compiled found
    · have unmarked := not_exists.1 marked
      rw [Pattern.parse_exact star empty unmarked, Pattern.fits, Bool.and_eq_true] at h
      obtain rfl : s = value := of_decide_eq_true h.2
      exact .exact empty star unmarked

theorem meetsPresent_iff {value s : String} :
    MeetsPresent value s ↔ (Pattern.parse s).fitsPresent value = true := by
  by_cases star : s = "*"
  · rw [star]
    exact ⟨fun h => decide_eq_true (h.2 rfl), fun h => ⟨.any, fun _ => of_decide_eq_true h⟩⟩
  · have same : (Pattern.parse s).fitsPresent value = (Pattern.parse s).fits value := by
      cases e : Pattern.parse s with
      | any =>
        have := Pattern.text_parse s
        rw [e] at this
        exact absurd this.symm star
      | empty | regex | exact => rfl
    rw [same, ← meets_iff]
    exact ⟨And.left, fun h => ⟨h, fun e => absurd e star⟩⟩

/-! ## The parts of a value -/

/-- One of the parts of a text, empty if there are too few. -/
def part (parts : List (List Char)) (i : Nat) : String := String.ofList (parts.getD i [])

/-- What holds of all parts of a text and of the empty one holds of a part of which there may be too
few. -/
theorem forall_part {P : List Char → Prop} {parts : List (List Char)} (h : ∀ p ∈ parts, P p)
    (empty : P []) (i : Nat) : P (parts.getD i []) := by
  rw [List.getD_eq_getElem?_getD]
  cases e : parts[i]? with
  | none => exact empty
  | some p => exact h p (List.mem_of_getElem? e)

/-- An actor meets the first three parts of an alternative, missing parts being empty. -/
def MeetsAlternative (a : Actor) (alternative : List Char) : Prop :=
  ∃ parts, Cut [';'] alternative parts ∧ Meets a.login (part parts 0) ∧
    Meets a.email (part parts 1) ∧ Meets a.name (part parts 2)

/-- The alternatives of a value: the trimmed value, unless it stands in square brackets; then what
stands between its pairs of bars, trimmed. -/
inductive IsAlternative (value : String) : List Char → Prop
  | alone : (∀ inner, trimChars value.toList ≠ '[' :: (inner ++ [']'])) →
    IsAlternative value (trimChars value.toList)
  | listed {inner p : List Char} {parts : List (List Char)} :
    trimChars value.toList = '[' :: (inner ++ [']']) → Cut ['|', '|'] inner parts → p ∈ parts →
    IsAlternative value (trimChars p)

/-- The value of an entry exempts an actor. In the simple grammar the actor has a login, and meets
the first part of the value and the second one if there is one; `*` then asks for a value. -/
def Grammar.Exempts (grammar : Grammar) (value : String) (a : Actor) : Prop :=
  match grammar with
  | .extended => ∃ alternative, IsAlternative value alternative ∧ MeetsAlternative a alternative
  | .simple =>
    a.login ≠ "" ∧ ∃ parts, Cut [';'] (trimChars value.toList) parts ∧
      MeetsPresent a.login (part parts 0) ∧
      ∀ email, parts[1]? = some email → MeetsPresent a.email (String.ofList email)

theorem splitAlternatives_of_brackets {value : String} {inner : List Char}
    (h : trimChars value.toList = '[' :: (inner ++ [']'])) :
    splitAlternatives value =
      (Text.splitBars inner).map fun p => String.ofList (trimChars p) := by
  unfold splitAlternatives
  dsimp only
  rw [Text.between?_eq_some.2 h]

theorem splitAlternatives_of_bare {value : String}
    (h : ∀ inner, trimChars value.toList ≠ '[' :: (inner ++ [']'])) :
    splitAlternatives value = [String.ofList (trimChars value.toList)] := by
  have none : Text.between? '[' ']' (trimChars value.toList) = none :=
    Option.eq_none_iff_forall_ne_some.2 fun inner e => h inner (Text.between?_eq_some.1 e)
  unfold splitAlternatives
  dsimp only
  rw [none]

theorem isAlternative_iff {value : String} {alternative : List Char} :
    IsAlternative value alternative ↔ String.ofList alternative ∈ splitAlternatives value := by
  constructor
  · rintro (bare | ⟨bracketed, cut, hp⟩)
    · rw [splitAlternatives_of_bare bare]
      exact List.mem_singleton_self _
    · rw [splitAlternatives_of_brackets bracketed, ← Text.cut_bars_iff.1 cut]
      exact List.mem_map_of_mem hp
  · intro mem
    by_cases bracketed : ∃ inner, trimChars value.toList = '[' :: (inner ++ [']'])
    · obtain ⟨inner, bracketed⟩ := bracketed
      rw [splitAlternatives_of_brackets bracketed, List.mem_map] at mem
      obtain ⟨p, hp, e⟩ := mem
      rw [← String.ofList_injective e]
      exact .listed bracketed (Text.cut_splitBars inner) hp
    · have bare := not_exists.1 bracketed
      rw [splitAlternatives_of_bare bare, List.mem_singleton] at mem
      rw [String.ofList_injective mem]
      exact .alone bare

/-- Reading an alternative reads its first three parts. -/
theorem Triple.parse_eq (s : String) :
    Triple.parse s =
      ⟨Pattern.parse (part (Text.splitAt ';' s.toList) 0),
        Pattern.parse (part (Text.splitAt ';' s.toList) 1),
        Pattern.parse (part (Text.splitAt ';' s.toList) 2)⟩ := by
  unfold Triple.parse
  match Text.splitAt ';' s.toList with
  | [] => rfl
  | [login] => rfl
  | [login, email] => rfl
  | login :: email :: name :: _ => rfl

theorem Triple.parse_ofList {alternative : List Char} {parts : List (List Char)}
    (cut : Cut [';'] alternative parts) :
    Triple.parse (String.ofList alternative) =
      ⟨Pattern.parse (part parts 0), Pattern.parse (part parts 1), Pattern.parse (part parts 2)⟩ := by
  rw [parse_eq, String.toList_ofList, ← Text.cut_singleton_iff.1 cut]

theorem meetsAlternative_iff {a : Actor} {alternative : List Char} :
    MeetsAlternative a alternative ↔
      (Triple.parse (String.ofList alternative)).admits a = true := by
  rw [Triple.parse_eq, Triple.admits, Bool.and_eq_true, Bool.and_eq_true, ← meets_iff, ← meets_iff,
    ← meets_iff, String.toList_ofList, and_assoc]
  constructor
  · rintro ⟨parts, cut, meets⟩
    rw [← Text.cut_singleton_iff.1 cut]
    exact meets
  · intro meets
    exact ⟨_, Text.cut_splitAt ';' alternative, meets⟩

/-- Reading a value of the simple grammar reads its first part, and its second one if there is
one. -/
theorem Rule.parse_simple (value : String) :
    Rule.parse .simple value =
      .simple (Pattern.parse (part (Text.splitAt ';' (trimChars value.toList)) 0))
        ((Text.splitAt ';' (trimChars value.toList))[1]?.map fun p =>
          Pattern.parse (String.ofList p)) := by
  unfold Rule.parse
  match Text.splitAt ';' (trimChars value.toList) with
  | [] => rfl
  | [login] => rfl
  | login :: email :: _ => rfl

/-- The patterns of a value of the simple grammar by its parts. -/
theorem Rule.parse_simple_of_cut {value : String} {login : List Char} {parts : List (List Char)}
    (cut : Cut [';'] (trimChars value.toList) (login :: parts)) :
    Rule.parse .simple value = .simple (Pattern.parse (String.ofList login))
      (parts.head?.map fun p => Pattern.parse (String.ofList p)) := by
  rw [parse_simple, ← Text.cut_singleton_iff.1 cut, List.getElem?_cons_succ,
    List.head?_eq_getElem?]
  rfl

/-- The first part of a trimmed text does not begin with white space. -/
theorem not_isBlank_head_of_cut {sep s p : List Char} {parts : List (List Char)}
    (cut : Cut sep (trimChars s) (p :: parts)) {c : Char} (first : p.head? = some c) :
    Text.isBlank c = false := by
  obtain ⟨rest, trimmed⟩ := cut.first_prefix
  refine Text.not_isBlank_head_trimChars (s := s) ?_
  rw [← trimmed, List.head?_append, first]
  rfl

/-- Whom a value exempts is what reading it says. -/
theorem Grammar.exempts_iff {grammar : Grammar} {value : String} {a : Actor} :
    grammar.Exempts value a ↔ (Rule.parse grammar value).admits a = true := by
  cases grammar with
  | extended =>
    unfold Exempts Rule.parse Rule.admits
    simp only [isAlternative_iff, meetsAlternative_iff, List.any_eq_true, List.mem_map]
    constructor
    · rintro ⟨alternative, mem, admits⟩
      exact ⟨_, ⟨_, mem, rfl⟩, admits⟩
    · rintro ⟨_, ⟨alternative, mem, rfl⟩, admits⟩
      rw [← String.ofList_toList (s := alternative)] at mem admits
      exact ⟨alternative.toList, mem, admits⟩
  | simple =>
    rw [Rule.parse_simple]
    unfold Exempts Rule.admits
    simp only [Bool.and_eq_true, decide_eq_true_eq, and_assoc, meetsPresent_iff,
      Option.all_eq_true, Option.map_eq_some_iff, forall_exists_index, and_imp,
      forall_apply_eq_imp_iff₂, Text.cut_singleton_iff, exists_eq_left]

instance (grammar : Grammar) (value : String) (a : Actor) : Decidable (grammar.Exempts value a) :=
  decidable_of_iff _ Grammar.exempts_iff.symm

/-- The grammars differ about who has no email. -/
example : Grammar.extended.Exempts "bob;*" (.ofIdentity (some "bob") none none) ∧
    ¬ Grammar.simple.Exempts "bob;*" (.ofIdentity (some "bob") none none) := by
  decide +kernel

end ClaExemption
