import ClaExemption.Proofs.Rule.Exempts

/-!
# Alternatives that are joined

The alternatives of a value in square brackets are the trimmed pieces of what
stands between its bars (`trimmedPieces`). Joining texts by bars with blanks
around them joins their pieces, also where a text has bars of its own
(`trimmedPieces_intercalate`), and a text without any is one piece
(`trimmedPieces_of_whole`).
-/

namespace ClaExemption

open Text (Cut isBlank trimChars splitBars)

/-- The parts of a text between its pairs of bars, trimmed. -/
def trimmedPieces (s : List Char) : List (List Char) := (splitBars s).map trimChars

theorem trimmedPieces_ne_nil (s : List Char) : trimmedPieces s ≠ [] :=
  List.map_eq_nil_iff.not.2 (Text.splitBars_ne_nil s)

theorem splitAlternatives_ne_nil (value : String) : splitAlternatives value ≠ [] := by
  unfold splitAlternatives
  dsimp only
  split
  · exact List.map_eq_nil_iff.not.2 (Text.splitBars_ne_nil _)
  · exact List.cons_ne_nil _ _

/-- Alternatives are trimmed. -/
theorem IsAlternative.exists_trimmed {value : String} {alternative : List Char}
    (h : IsAlternative value alternative) : ∃ s, alternative = trimChars s := by
  cases h with
  | alone => exact ⟨_, rfl⟩
  | listed => exact ⟨_, rfl⟩

theorem toList_brackets (inner : String) :
    ("[" ++ inner ++ "]").toList = '[' :: (inner.toList ++ [']']) := by
  rw [String.toList_append, String.toList_append]
  rfl

/-- A text between square brackets is trimmed. -/
theorem trimChars_brackets (inner : List Char) :
    trimChars ('[' :: (inner ++ [']'])) = '[' :: (inner ++ [']']) := by
  refine Text.trimChars_eq_self (fun c first => ?_) fun c last => ?_
  · cases first
    rfl
  · rw [← List.cons_append, List.getLast?_concat] at last
    cases last
    rfl

/-- The alternatives between square brackets. -/
theorem splitAlternatives_brackets (inner : String) :
    splitAlternatives ("[" ++ inner ++ "]") = (trimmedPieces inner.toList).map String.ofList := by
  have bracketed : trimChars ("[" ++ inner ++ "]").toList = '[' :: (inner.toList ++ [']']) := by
    rw [toList_brackets, trimChars_brackets]
  rw [splitAlternatives_of_brackets bracketed, trimmedPieces, List.map_map]
  rfl

/-- A text without a pair of bars is one piece. -/
theorem trimmedPieces_of_whole {s : List Char} (whole : ¬ ['|', '|'] <:+: s) :
    trimmedPieces s = [trimChars s] := by
  rw [trimmedPieces, ← Text.cut_bars_iff.1 (.last whole), List.map_singleton]

/-- A text with a pair of bars is several pieces. -/
theorem not_infix_of_trimmedPieces {s p : List Char} (h : trimmedPieces s = [p]) :
    ¬ ['|', '|'] <:+: s := by
  have cut := Text.cut_splitBars s
  obtain ⟨q, parts, -⟩ := List.map_eq_singleton_iff.1 h
  rw [parts] at cut
  exact cut.of_alone.2

variable {c d : Char} {s t : List Char}

theorem not_mem_bars_of_isBlank (hc : isBlank c = true) : c ∉ ['|', '|'] := by
  rintro (_ | ⟨_, _ | ⟨_, ⟨⟩⟩⟩) <;> cases hc

theorem trimmedPieces_cons_of_blank (hc : isBlank c = true) :
    trimmedPieces (c :: s) = trimmedPieces s := by
  obtain ⟨p, parts, split⟩ := List.exists_cons_of_ne_nil (Text.splitBars_ne_nil s)
  have cut := Text.cut_splitBars s
  rw [split] at cut
  have joined := cut.cons (c := c) fun h =>
    not_mem_bars_of_isBlank hc (List.mem_cons.2 (.inl (List.cons_prefix_cons.1 h).1.symm))
  rw [trimmedPieces, trimmedPieces, split, ← Text.cut_bars_iff.1 joined, List.map_cons,
    Text.trimChars_cons_of_blank hc, List.map_cons]

/-- Bars with blanks around them part the pieces of one text from those of another. -/
theorem trimmedPieces_append_bars (hc : isBlank c = true) (hd : isBlank d = true) :
    trimmedPieces (s ++ c :: '|' :: '|' :: d :: t) = trimmedPieces s ++ trimmedPieces t := by
  have bars := Text.cut_splitBars s
  obtain ⟨init, p, split, cut⟩ := bars.concat (not_mem_bars_of_isBlank hc)
  have joined := cut.append (Text.cut_splitBars (d :: t)) fun q hq => by
    rw [List.getLast?_concat] at hq
    cases hq
    rw [List.append_assoc, List.singleton_append, Text.infix_append_cons_iff (not_mem_bars_of_isBlank hc)]
    rintro (h | h)
    · exact bars.not_infix p (by simp [split]) h
    · exact absurd h (by decide)
  have chars : s ++ [c] ++ (['|', '|'] ++ (d :: t)) = s ++ c :: '|' :: '|' :: d :: t := by simp
  rw [chars] at joined
  rw [← trimmedPieces_cons_of_blank hd (s := t)]
  simp only [trimmedPieces, ← Text.cut_bars_iff.1 joined, split, List.map_append, List.map_singleton,
    Text.trimChars_concat_of_blank hc]

/-- The pieces of joined texts are those of the texts. -/
theorem trimmedPieces_intercalate {texts : List (List Char)} (ne : texts ≠ []) :
    trimmedPieces (" || ".toList.intercalate texts) = texts.flatMap trimmedPieces := by
  induction texts with
  | nil => exact absurd rfl ne
  | cons text texts ih =>
    cases texts with
    | nil => simp
    | cons next texts =>
      rw [List.intercalate_cons_cons, List.append_assoc, List.flatMap_cons,
        ← ih (List.cons_ne_nil _ _)]
      exact trimmedPieces_append_bars rfl rfl

end ClaExemption
