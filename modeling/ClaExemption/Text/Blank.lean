/-!
# White space at the ends of a text

`isBlank` is the white space of Unicode, and `trim` removes it from both ends of
a text. A trimmed text begins and ends with a character that is not blank
(`not_isBlank_head_trimChars`, `not_isBlank_getLast_trimChars`), and trimming
forgets blank text around its argument (`trimChars_append_of_blank`) and goes no
further than a character that is not blank (`trimChars_append_cons`); what begins
and ends so is left as it is (`trimChars_eq_self`).
-/

namespace ClaExemption.Text

/-- The code points of white space. -/
def blankRanges : List (Nat × Nat) :=
  [(0x9, 0xd), (0x20, 0x20), (0x85, 0x85), (0xa0, 0xa0), (0x1680, 0x1680), (0x2000, 0x200a),
   (0x2028, 0x2029), (0x202f, 0x202f), (0x205f, 0x205f), (0x3000, 0x3000)]

/-- Whether a character is white space. -/
def isBlank (c : Char) : Bool :=
  blankRanges.any fun (first, last) => first ≤ c.toNat && c.toNat ≤ last

/-- Drops the blank characters at the end. -/
def trimRight (s : List Char) : List Char :=
  (s.reverse.dropWhile isBlank).reverse

/-- Drops the blank characters at both ends. -/
def trimChars (s : List Char) : List Char :=
  trimRight (s.dropWhile isBlank)

/-- The text without the blank characters at its ends. -/
def trim (s : String) : String :=
  String.ofList (trimChars s.toList)

/-- Whether a text is nothing but white space. -/
def AllBlank (w : List Char) : Prop := ∀ c ∈ w, isBlank c = true

theorem trimRight_append_of_blank {w : List Char} (h : AllBlank w) (s : List Char) :
    trimRight (s ++ w) = trimRight s := by
  unfold trimRight
  rw [List.reverse_append, List.dropWhile_append_of_pos fun c hc => h c (List.mem_reverse.1 hc)]

theorem trimRight_prefix (s : List Char) : trimRight s <+: s := by
  unfold trimRight
  have := List.dropWhile_suffix isBlank (l := s.reverse)
  rw [← List.reverse_prefix] at this
  simpa using this

theorem not_isBlank_getLast_trimRight {s : List Char} {c : Char}
    (h : (trimRight s).getLast? = some c) : isBlank c = false := by
  rw [trimRight, List.getLast?_reverse] at h
  have := List.head?_dropWhile_not isBlank s.reverse
  rw [h] at this
  simpa using this

theorem trimChars_append_of_blank {w w' : List Char} (h : AllBlank w) (h' : AllBlank w')
    (s : List Char) : trimChars (w ++ s ++ w') = trimChars s := by
  unfold trimChars
  rw [List.append_assoc, List.dropWhile_append_of_pos h, List.dropWhile_append]
  split
  · next e =>
    rw [List.isEmpty_iff.1 e, ← List.append_nil w', List.dropWhile_append_of_pos h']
    rfl
  · exact trimRight_append_of_blank h' _

theorem trimChars_cons_of_blank {c : Char} (h : isBlank c = true) (s : List Char) :
    trimChars (c :: s) = trimChars s := by
  rw [trimChars, List.dropWhile_cons_of_pos h, trimChars]

theorem trimChars_concat_of_blank {c : Char} (h : isBlank c = true) (s : List Char) :
    trimChars (s ++ [c]) = trimChars s := by
  have none : AllBlank [] := nofun
  have one : AllBlank [c] := List.forall_mem_singleton.2 h
  exact trimChars_append_of_blank none one s

/-- At the end, trimming goes no further than a character that is not blank. -/
theorem trimRight_append_cons {c : Char} (h : isBlank c = false) (s t : List Char) :
    trimRight (s ++ c :: t) = s ++ c :: trimRight t := by
  have kept : (c :: s.reverse).dropWhile isBlank = c :: s.reverse :=
    List.dropWhile_cons_of_neg (by simp [h])
  unfold trimRight
  rw [List.reverse_append, List.reverse_cons, List.append_assoc, List.singleton_append,
    List.dropWhile_append, kept]
  split
  · next e => simp [List.isEmpty_iff.1 e]
  · simp

/-- A character that is not blank parts what is trimmed at the front from what is trimmed at the
end. -/
theorem trimChars_append_cons {c : Char} (h : isBlank c = false) (s t : List Char) :
    trimChars (s ++ c :: t) = s.dropWhile isBlank ++ c :: trimRight t := by
  have kept : (c :: t).dropWhile isBlank = c :: t := List.dropWhile_cons_of_neg (by simp [h])
  have front : (s ++ c :: t).dropWhile isBlank = s.dropWhile isBlank ++ c :: t := by
    rw [List.dropWhile_append, kept]
    split
    · next e => rw [List.isEmpty_iff.1 e, List.nil_append]
    · rfl
  rw [trimChars, front, trimRight_append_cons h]

theorem not_isBlank_head_trimChars {s : List Char} {c : Char}
    (h : (trimChars s).head? = some c) : isBlank c = false := by
  have := List.head?_dropWhile_not isBlank s
  obtain ⟨rest, eq⟩ := trimRight_prefix (s.dropWhile isBlank)
  cases ht : trimRight (s.dropWhile isBlank) with
  | nil => simp [trimChars, ht] at h
  | cons d ds =>
    rw [ht] at eq
    rw [← eq] at this
    simp only [trimChars, ht, List.head?_cons, Option.some.injEq] at h
    subst h
    simpa using this

theorem not_isBlank_getLast_trimChars {s : List Char} {c : Char}
    (h : (trimChars s).getLast? = some c) : isBlank c = false :=
  not_isBlank_getLast_trimRight h

theorem trimChars_infix (s : List Char) : trimChars s <:+: s := by
  have right := trimRight_prefix (s.dropWhile isBlank)
  exact right.isInfix.trans (List.dropWhile_suffix isBlank).isInfix

theorem dropWhile_isBlank_eq_self {s : List Char}
    (first : ∀ c, s.head? = some c → isBlank c = false) : s.dropWhile isBlank = s := by
  cases s with
  | nil => rfl
  | cons c s => exact List.dropWhile_cons_of_neg (by simp [first c rfl])

/-- A text that does not end with white space is left as it is at the end. -/
theorem trimRight_eq_self {s : List Char} (last : ∀ c, s.getLast? = some c → isBlank c = false) :
    trimRight s = s := by
  rw [← List.head?_reverse] at last
  rw [trimRight, dropWhile_isBlank_eq_self last, List.reverse_reverse]

/-- A text that neither begins nor ends with white space is left as it is. -/
theorem trimChars_eq_self {s : List Char} (first : ∀ c, s.head? = some c → isBlank c = false)
    (last : ∀ c, s.getLast? = some c → isBlank c = false) : trimChars s = s := by
  rw [trimChars, dropWhile_isBlank_eq_self first, trimRight_eq_self last]

theorem trimChars_trimChars (s : List Char) : trimChars (trimChars s) = trimChars s :=
  trimChars_eq_self (fun _ => not_isBlank_head_trimChars) fun _ => not_isBlank_getLast_trimChars

end ClaExemption.Text
