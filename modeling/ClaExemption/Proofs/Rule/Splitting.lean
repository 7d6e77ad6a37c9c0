import ClaExemption.Proofs.Rule.Alternatives

/-!
# Splitting takes apart what joining puts together

Texts without a pair of bars, joined by bars with blanks around them between
square brackets, are the alternatives of the value once trimmed
(`splitAlternatives_join`). Whatever the value is, its alternatives are trimmed
(`trim_of_mem_splitAlternatives`), hold no pair of bars if the value is in square
brackets (`not_infix_of_mem_splitAlternatives`), and are then one more than the
pairs of bars between the brackets (`length_splitAlternatives`).
-/

namespace ClaExemption

open Text (AllBlank trimChars)

/-- How many pairs of bars there are in a text, counted from the left and without overlap. -/
def countBars : List Char → Nat
  | '|' :: '|' :: rest => countBars rest + 1
  | _ :: rest => countBars rest
  | [] => 0

/-- There is one part more than there are pairs of bars. -/
theorem length_splitBars (s : List Char) : (Text.splitBars s).length = countBars s + 1 := by
  fun_induction Text.splitBars s with
  | case1 => rfl
  | case2 rest ih => rw [countBars, List.length_cons, ih]
  | case3 c rest bars part parts e ih =>
    rw [e] at ih
    rw [countBars, ← ih, List.length_cons, List.length_cons]
    exact bars
  | case4 c rest bars e ih => exact absurd e (Text.splitBars_ne_nil rest)

/-- A value of which trimming leaves square brackets around a text. -/
def IsBracketed (value inner : String) : Prop := Text.trim value = "[" ++ inner ++ "]"

variable {value inner : String}

theorem isBracketed_iff :
    IsBracketed value inner ↔ trimChars value.toList = '[' :: (inner.toList ++ [']']) := by
  rw [IsBracketed, Text.trim, ← toList_brackets]
  exact ⟨fun h => by rw [← h, String.toList_ofList], fun h => by rw [h, String.ofList_toList]⟩

theorem splitAlternatives_of_isBracketed (h : IsBracketed value inner) :
    splitAlternatives value = (trimmedPieces inner.toList).map String.ofList := by
  rw [splitAlternatives_of_brackets (isBracketed_iff.1 h), trimmedPieces, List.map_map]
  rfl

/-- A value without square brackets around it is one alternative. -/
theorem splitAlternatives_of_not_isBracketed (h : ∀ inner, ¬ IsBracketed value inner) :
    splitAlternatives value = [Text.trim value] := by
  refine splitAlternatives_of_bare fun inner bracketed => h (String.ofList inner) ?_
  rw [isBracketed_iff, bracketed, String.toList_ofList]

theorem isBracketed_padded {w w' : String} (hw : AllBlank w.toList) (hw' : AllBlank w'.toList)
    (inner : String) : IsBracketed (w ++ ("[" ++ inner ++ "]") ++ w') inner := by
  rw [isBracketed_iff, String.toList_append, String.toList_append,
    Text.trimChars_append_of_blank hw hw', toList_brackets, trimChars_brackets]

/-- Alternatives are trimmed. -/
theorem trim_of_mem_splitAlternatives {part : String} (mem : part ∈ splitAlternatives value) :
    Text.trim part = part := by
  have alternative : IsAlternative value part.toList :=
    isAlternative_iff.2 (by rwa [String.ofList_toList])
  obtain ⟨s, trimmed⟩ := alternative.exists_trimmed
  rw [Text.trim, trimmed, Text.trimChars_trimChars, ← trimmed, String.ofList_toList]

/-- No alternative of a value in square brackets holds a pair of bars. -/
theorem not_infix_of_mem_splitAlternatives (h : IsBracketed value inner) {part : String}
    (mem : part ∈ splitAlternatives value) : ¬ ['|', '|'] <:+: part.toList := by
  rw [splitAlternatives_of_isBracketed h, List.mem_map] at mem
  obtain ⟨_, piece, rfl⟩ := mem
  obtain ⟨p, hp, rfl⟩ := List.mem_map.1 piece
  rw [String.toList_ofList]
  exact fun bars =>
    Text.Cut.not_infix (Text.cut_splitBars _) p hp (bars.trans (Text.trimChars_infix p))

theorem length_splitAlternatives (h : IsBracketed value inner) :
    (splitAlternatives value).length = countBars inner.toList + 1 := by
  rw [splitAlternatives_of_isBracketed h, List.length_map, trimmedPieces, List.length_map,
    length_splitBars]

/-- The alternatives that are joined between square brackets, with white space around them. -/
theorem splitAlternatives_join {texts : List String} {w w' : String} (ne : texts ≠ [])
    (whole : ∀ t ∈ texts, ¬ ['|', '|'] <:+: t.toList) (hw : AllBlank w.toList)
    (hw' : AllBlank w'.toList) :
    splitAlternatives (w ++ ("[" ++ " || ".intercalate texts ++ "]") ++ w') =
      texts.map Text.trim := by
  rw [splitAlternatives_of_isBracketed (isBracketed_padded hw hw' _), String.toList_intercalate,
    trimmedPieces_intercalate (List.map_eq_nil_iff.not.2 ne), List.flatMap_map, List.map_flatMap]
  have alone : ∀ t ∈ texts, (trimmedPieces t.toList).map String.ofList = [Text.trim t] :=
    fun t mem => by rw [trimmedPieces_of_whole (whole t mem), List.map_singleton, Text.trim]
  rw [List.flatMap_congr alone, ← List.map_eq_flatMap]

/-- Splitting takes apart what joining puts together. The alternatives of any value are at least
one and trimmed; it is the trimmed value itself unless that is in square brackets, and otherwise no
alternative holds a pair of bars and they are one more than the pairs between the brackets. -/
theorem splitAlternatives_inverts_join :
    (∀ (texts : List String) (w w' : String), texts ≠ [] →
      (∀ t ∈ texts, ¬ ['|', '|'] <:+: t.toList) → AllBlank w.toList → AllBlank w'.toList →
        splitAlternatives (w ++ ("[" ++ " || ".intercalate texts ++ "]") ++ w') =
          texts.map Text.trim) ∧
      ∀ value, splitAlternatives value ≠ [] ∧
        (∀ part ∈ splitAlternatives value, Text.trim part = part) ∧
        ((∀ inner, ¬ IsBracketed value inner) → splitAlternatives value = [Text.trim value]) ∧
        ∀ inner, IsBracketed value inner →
          (∀ part ∈ splitAlternatives value, ¬ ['|', '|'] <:+: part.toList) ∧
            (splitAlternatives value).length = countBars inner.toList + 1 := by
  refine ⟨fun texts w w' ne whole hw hw' => splitAlternatives_join ne whole hw hw', fun value => ?_⟩
  refine ⟨splitAlternatives_ne_nil value, fun part mem => trim_of_mem_splitAlternatives mem,
    splitAlternatives_of_not_isBracketed, fun inner bracketed => ⟨fun part mem => ?_, ?_⟩⟩
  · exact not_infix_of_mem_splitAlternatives bracketed mem
  · exact length_splitAlternatives bracketed

/-- Single bars, brackets and blanks at the ends of alternatives do not lead it astray. -/
theorem splitAlternatives_inverts_join_bars :
    ["a|", "", "|b;[", " ]] "] ≠ [] ∧
      (∀ t ∈ ["a|", "", "|b;[", " ]] "], ¬ ['|', '|'] <:+: t.toList) ∧
      AllBlank "\t".toList ∧ AllBlank " ".toList ∧
      splitAlternatives
          ("\t" ++ ("[" ++ " || ".intercalate ["a|", "", "|b;[", " ]] "] ++ "]") ++ " ") =
        ["a|", "", "|b;[", "]]"] := by
  have ne : ["a|", "", "|b;[", " ]] "] ≠ [] := List.cons_ne_nil _ _
  have whole : ∀ t ∈ ["a|", "", "|b;[", " ]] "], ¬ ['|', '|'] <:+: t.toList := by decide +kernel
  have tab : AllBlank "\t".toList := fun c hc => by cases List.mem_singleton.1 hc; rfl
  have space : AllBlank " ".toList := fun c hc => by cases List.mem_singleton.1 hc; rfl
  have joined := splitAlternatives_inverts_join.1 _ _ _ ne whole tab space
  have trimmed : ["a|", "", "|b;[", " ]] "].map Text.trim = ["a|", "", "|b;[", "]]"] := by
    decide +kernel
  exact ⟨ne, whole, tab, space, joined.trans trimmed⟩

/-- Three bars in a row are a pair and a single one, from the left. -/
example : splitAlternatives "[a|||b]" = ["a", "|b"] ∧ countBars "a|||b".toList = 1 := by
  decide +kernel

end ClaExemption
