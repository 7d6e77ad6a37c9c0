import ClaExemption.Text.Split
import Mathlib.Data.List.Infix

/-!
# What it means to cut a text at a separator

`Cut sep s parts` says that `parts` stand between the copies of `sep` in `s`,
counted from the left and without overlap. A text is cut in one way only
(`Cut.unique`), and `splitAt` and `splitBars` find it (`cut_splitAt`,
`cut_splitBars`). Texts on either side of a separator are cut each on its own
(`Cut.append`), a character that is not in the separator only makes a part longer
(`Cut.cons`, `Cut.concat`), and what holds no separator between two other
characters stays in one part (`Cut.exists_mem_of_between`).
-/

namespace ClaExemption.Text

/-- The parts of a text between the copies of a separator, each of which is the first one after
the part before it. -/
inductive Cut (sep : List Char) : List Char → List (List Char) → Prop
  /-- The separator does not occur. -/
  | last {p : List Char} : ¬ sep <:+: p → Cut sep p [p]
  /-- Its first copy stands after a part. -/
  | next {p s : List Char} {parts : List (List Char)} :
    ¬ sep <:+: p ++ sep.dropLast → Cut sep s parts → Cut sep (p ++ (sep ++ s)) (p :: parts)

variable {sep s : List Char} {parts : List (List Char)}

/-- A part before a first copy does not end later than another one. -/
theorem not_lt_of_first {p q s t : List Char} (hq : ¬ sep <:+: q ++ sep.dropLast)
    (h : p ++ (sep ++ s) = q ++ (sep ++ t)) : ¬ p.length < q.length := by
  intro lt
  obtain ⟨r, rfl⟩ : p <+: q :=
    List.prefix_of_prefix_length_le ⟨_, h⟩ (List.prefix_append _ _) (Nat.le_of_lt lt)
  have hr : 1 ≤ r.length := by rw [List.length_append] at lt; omega
  rw [List.append_assoc, List.append_cancel_left_eq] at h
  -- The copy after `p` lies within `r` and the beginning of the copy after `q`.
  have early : sep <+: r ++ sep.dropLast := by
    have here : r ++ sep.dropLast <+: sep ++ s := by
      rw [h, List.prefix_append_right_inj]
      exact (List.dropLast_prefix sep).trans (List.prefix_append _ _)
    refine List.prefix_of_prefix_length_le (List.prefix_append _ _) here ?_
    rw [List.length_append, List.length_dropLast]
    omega
  rw [List.append_assoc] at hq
  exact hq (early.isInfix.trans (List.suffix_append _ _).isInfix)

/-- A part behind a last copy does not begin earlier than another one. -/
theorem not_lt_of_last {p q s t : List Char} (ht : ¬ sep <:+: sep.tail ++ t)
    (h : p ++ (sep ++ s) = q ++ (sep ++ t)) : ¬ s.length < t.length := by
  -- Read from the end, the last copy is the first one.
  have backwards :
      s.reverse ++ (sep.reverse ++ p.reverse) = t.reverse ++ (sep.reverse ++ q.reverse) := by
    simpa using congrArg List.reverse h
  have first : ¬ sep.reverse <:+: t.reverse ++ sep.reverse.dropLast := by
    rwa [List.dropLast_reverse, ← List.reverse_append, List.reverse_infix]
  simpa using not_lt_of_first first backwards

/-- A separator that reaches into a part before it has a copy that comes earlier. -/
theorem exists_earlier {q : List Char} (ne : sep ≠ []) (h : sep <:+: q ++ sep.dropLast) :
    ∃ p s, p.length < q.length ∧ p ++ (sep ++ s) = q ++ sep := by
  obtain ⟨p, s, e⟩ := h
  have len := congrArg List.length e
  have pos := List.length_pos_iff.2 ne
  simp only [List.length_append, List.length_dropLast] at len
  refine ⟨p, s ++ [sep.getLast ne], by omega, ?_⟩
  calc p ++ (sep ++ (s ++ [sep.getLast ne]))
      = (p ++ sep ++ s) ++ [sep.getLast ne] := by simp
    _ = q ++ sep := by rw [e, List.append_assoc, List.dropLast_concat_getLast]

/-- A separator that reaches into a part behind it has a copy that comes later. -/
theorem exists_later {t : List Char} (ne : sep ≠ []) (h : sep <:+: sep.tail ++ t) :
    ∃ p s, s.length < t.length ∧ p ++ (sep ++ s) = sep ++ t := by
  obtain ⟨p, s, e⟩ := h
  have len := congrArg List.length e
  have pos := List.length_pos_iff.2 ne
  simp only [List.length_append, List.length_tail] at len
  refine ⟨sep.head ne :: p, s, by omega, ?_⟩
  calc sep.head ne :: p ++ (sep ++ s)
      = sep.head ne :: (p ++ sep ++ s) := by simp
    _ = sep ++ t := by rw [e, ← List.cons_append, List.cons_head_tail]

/-- A text is cut in one way only. -/
theorem Cut.unique {parts' : List (List Char)} (h : Cut sep s parts) (h' : Cut sep s parts') :
    parts = parts' := by
  induction h generalizing parts' with
  | @last p hp =>
    generalize e : p = s at h'
    cases h' with
    | last => rw [← e]
    | next => exact absurd ⟨_, _, by rw [e, List.append_assoc]⟩ hp
  | @next p s parts hp _ ih =>
    generalize e : p ++ (sep ++ s) = t at h'
    cases h' with
    | last ht => exact absurd ⟨_, _, by rw [← e, List.append_assoc]⟩ ht
    | next hq hs =>
      have len := Nat.le_antisymm (Nat.not_lt.1 (not_lt_of_first hp e.symm))
        (Nat.not_lt.1 (not_lt_of_first hq e))
      obtain ⟨rfl, e⟩ := List.append_inj e len
      rw [List.append_cancel_left_eq, List.append_cancel_left_eq] at e
      rw [ih (e ▸ hs)]

/-- A character in front of which the separator does not start joins the first part. -/
theorem Cut.cons {c : Char} {p : List Char} (h : Cut sep s (p :: parts)) (hc : ¬ sep <+: c :: s) :
    Cut sep (c :: s) ((c :: p) :: parts) := by
  cases h with
  | last hp => exact .last fun hi => (List.infix_cons_iff.1 hi).elim hc hp
  | next hp hs =>
    refine .next (p := c :: _) (fun hi => ?_) hs
    refine (List.infix_cons_iff.1 hi).elim (fun hpre => hc ?_) hp
    refine hpre.trans ((List.prefix_cons_inj c).2 ((List.prefix_append_right_inj _).2 ?_))
    exact (List.dropLast_prefix sep).trans (List.prefix_append _ _)

/-- A separator at the front comes after an empty part. -/
theorem Cut.sep_append (h : Cut sep s parts) (hne : sep ≠ []) :
    Cut sep (sep ++ s) ([] :: parts) := by
  refine .next (p := []) (fun hi => ?_) h
  have len := hi.length_le
  have := List.length_pos_iff.2 hne
  rw [List.nil_append, List.length_dropLast] at len
  omega

/-- A text without the separating character is one part. -/
theorem Cut.alone {c : Char} {p : List Char} (hp : c ∉ p) : Cut [c] p [p] :=
  .last (by rwa [List.singleton_infix_iff])

/-- A part without the separating character, in front of a text that is cut at it. -/
theorem Cut.of_not_mem {c : Char} {p : List Char} (hp : c ∉ p) (h : Cut [c] s parts) :
    Cut [c] (p ++ c :: s) (p :: parts) :=
  .next (by simpa [List.singleton_infix_iff] using hp) h

/-- The separator does not occur in a part. -/
theorem Cut.not_infix (h : Cut sep s parts) : ∀ p ∈ parts, ¬ sep <:+: p := by
  induction h with
  | last hp => simpa using hp
  | next hp _ ih =>
    exact List.forall_mem_cons.2 ⟨fun hi => hp (hi.trans (List.prefix_append _ _).isInfix), ih⟩

/-- No part holds the separating character. -/
theorem Cut.not_mem {c : Char} (h : Cut [c] s parts) : ∀ p ∈ parts, c ∉ p := by
  simpa only [List.singleton_infix_iff] using h.not_infix

/-- Two texts on either side of a separator are cut each on its own, if the separator does not begin
in the last part of the first one. -/
theorem Cut.append {s' : List Char} {parts' : List (List Char)} (h : Cut sep s parts)
    (h' : Cut sep s' parts')
    (clear : ∀ p, parts.getLast? = some p → ¬ sep <:+: p ++ sep.dropLast) :
    Cut sep (s ++ (sep ++ s')) (parts ++ parts') := by
  induction h with
  | last hp => exact .next (clear _ rfl) h'
  | @next p s parts hp _ ih =>
    rw [List.append_assoc, List.append_assoc]
    refine .next hp (ih fun q hq => clear q ?_)
    rw [List.getLast?_cons, hq]
    rfl

/-- Two texts on either side of a separating character are cut each on its own. -/
theorem Cut.append_cons {c : Char} {s' : List Char} {parts' : List (List Char)}
    (h : Cut [c] s parts) (h' : Cut [c] s' parts') : Cut [c] (s ++ c :: s') (parts ++ parts') := by
  refine h.append h' fun p hp => ?_
  simpa [List.singleton_infix_iff] using h.not_mem p (List.mem_of_getLast? hp)

/-- A text begins with its first part. -/
theorem Cut.first_prefix {p : List Char} (h : Cut sep s (p :: parts)) : p <+: s := by
  cases h with
  | last => exact List.prefix_rfl
  | next => exact List.prefix_append _ _

/-- A text with one part is that part, without a separator. -/
theorem Cut.of_alone {p : List Char} (h : Cut sep s [p]) : s = p ∧ ¬ sep <:+: s := by
  cases h with
  | last hp => exact ⟨rfl, hp⟩
  | next _ h => cases h

/-- The parts of a text stand in it. -/
theorem Cut.infix_of_mem (h : Cut sep s parts) : ∀ p ∈ parts, p <:+: s := by
  induction h with
  | last => exact List.forall_mem_singleton.2 List.infix_rfl
  | next _ _ ih =>
    refine List.forall_mem_cons.2 ⟨(List.prefix_append _ _).isInfix, fun q hq => ?_⟩
    exact (ih q hq).trans ((List.suffix_append _ _).trans (List.suffix_append _ _)).isInfix

/-- A text ends with its last part. -/
theorem Cut.suffix_of_last {p : List Char} {i : Nat} (h : Cut sep s parts)
    (hp : parts[i]? = some p) (last : parts.length ≤ i + 1) : p <:+ s := by
  induction h generalizing i with
  | last =>
    cases i with
    | zero => exact Option.some.inj hp ▸ List.suffix_rfl
    | succ i => cases hp
  | @next q s parts _ cut ih =>
    cases i with
    | zero =>
      obtain rfl := List.eq_nil_of_length_eq_zero (Nat.le_zero.1 (Nat.le_of_succ_le_succ last))
      cases cut
    | succ i =>
      have inner := ih hp (Nat.le_of_succ_le_succ last)
      exact inner.trans ((List.suffix_append _ _).trans (List.suffix_append _ _))

/-- There is one part more than there are copies of the separating character. -/
theorem Cut.length_eq {c : Char} (h : Cut [c] s parts) : parts.length = s.count c + 1 := by
  induction h with
  | last hp =>
    rw [List.singleton_infix_iff] at hp
    rw [List.count_eq_zero_of_not_mem hp, List.length_singleton]
  | next hp _ ih =>
    have clear := hp
    rw [List.dropLast_singleton, List.append_nil, List.singleton_infix_iff] at clear
    rw [List.length_cons, ih, List.count_append, List.count_append,
      List.count_eq_zero_of_not_mem clear, List.count_singleton_self]
    omega

/-- A separator does not reach over a character that is not in it. -/
theorem infix_append_cons_iff {c : Char} {t : List Char} (hc : c ∉ sep) :
    sep <:+: s ++ c :: t ↔ sep <:+: s ∨ sep <:+: t := by
  constructor
  · intro h
    -- A part of the separator at the front of `c :: t` is empty.
    have front : ∀ l, l <+: c :: t → c ∉ l → l = [] := fun l hl hc' => by
      rcases List.prefix_cons_iff.1 hl with rfl | ⟨l, rfl, -⟩
      · rfl
      · exact absurd List.mem_cons_self hc'
    rcases List.infix_append_iff.1 h with h | h | ⟨l, l', rfl, h, h'⟩
    · exact .inl h
    · rcases List.infix_cons_iff.1 h with h | h
      · exact .inl (front _ h hc ▸ List.nil_infix)
      · exact .inr h
    · rw [front l' h' fun mem => hc (List.mem_append_right _ mem), List.append_nil]
      exact .inl h.isInfix
  · rintro (h | h)
    · exact h.trans (List.prefix_append _ _).isInfix
    · exact h.trans ((List.suffix_cons _ _).trans (List.suffix_append _ _)).isInfix

/-- A character that is not in the separator joins the last part. -/
theorem Cut.concat {c : Char} (h : Cut sep s parts) (hc : c ∉ sep) :
    ∃ init p, parts = init ++ [p] ∧ Cut sep (s ++ [c]) (init ++ [p ++ [c]]) := by
  induction h with
  | @last p hp =>
    refine ⟨[], p, rfl, .last fun h => ?_⟩
    rcases (infix_append_cons_iff hc).1 h with h | h
    · exact hp h
    · exact hp (h.trans List.nil_infix)
  | @next q s parts hq _ ih =>
    obtain ⟨init, p, rfl, cut⟩ := ih
    refine ⟨q :: init, p, rfl, ?_⟩
    rw [List.append_assoc, List.append_assoc]
    exact .next hq cut

/-- The second of three parts or more stands between two copies of the separator. -/
theorem Cut.exists_eq_of_three {c : Char} {p q r : List Char} {parts : List (List Char)}
    (h : Cut [c] s (p :: q :: r :: parts)) : ∃ t, s = p ++ c :: (q ++ c :: t) := by
  cases h with
  | next _ h =>
    cases h with
    | next => exact ⟨_, rfl⟩

theorem cut_splitAt (sep : Char) (s : List Char) : Cut [sep] s (splitAt sep s) := by
  induction s with
  | nil => exact .last fun hi => by simpa using hi.length_le
  | cons c s ih =>
    unfold splitAt
    split
    · next h => exact h ▸ ih.sep_append (List.cons_ne_nil _ _)
    · next h =>
      split
      · next e =>
        rw [e] at ih
        exact ih.cons fun hpre => h (List.cons_prefix_cons.1 hpre).1.symm
      · next e => exact absurd e (splitAt_ne_nil sep s)

/-- A text has a first part. -/
theorem exists_cut (sep : Char) (s : List Char) : ∃ p parts, Cut [sep] s (p :: parts) := by
  obtain ⟨p, parts, split⟩ := List.exists_cons_of_ne_nil (splitAt_ne_nil sep s)
  exact ⟨p, parts, split ▸ cut_splitAt sep s⟩

theorem cut_splitBars (s : List Char) : Cut ['|', '|'] s (splitBars s) := by
  fun_induction splitBars s with
  | case1 => exact .last fun hi => by simpa using hi.length_le
  | case2 rest ih => exact ih.sep_append (List.cons_ne_nil _ _)
  | case3 c rest bars part parts e ih =>
    rw [e] at ih
    refine ih.cons fun hpre => ?_
    obtain ⟨rest', h⟩ := hpre
    injection h with hc h
    exact bars rest' hc.symm h.symm
  | case4 c rest bars e ih => exact absurd e (splitBars_ne_nil rest)

/-- A pair of bars at the front of a text comes before a character that is no bar. -/
theorem bars_eq_append {c : Char} {s r t : List Char} (hc : c ≠ '|')
    (h : '|' :: '|' :: s = r ++ c :: t) : ∃ r', r = '|' :: '|' :: r' ∧ s = r' ++ c :: t := by
  match r, h with
  | [], h => exact absurd (List.cons.inj h).1.symm hc
  | [_], h => exact absurd (List.cons.inj (List.cons.inj h).2).1.symm hc
  | _ :: _ :: r', h =>
    cases h
    exact ⟨r', rfl, rfl⟩

/-- What stands between two characters other than bars, without a pair of bars in it, stands so in
one part. -/
theorem Cut.exists_mem_of_between {c d : Char} {u e v : List Char} (hc : c ≠ '|') (hd : d ≠ '|')
    (he : ¬ ['|', '|'] <:+: e) (h : Cut ['|', '|'] (u ++ c :: (e ++ d :: v)) parts) :
    ∃ u' v', u' ++ c :: (e ++ d :: v') ∈ parts := by
  generalize eq : u ++ c :: (e ++ d :: v) = s at h
  induction h generalizing u with
  | last => exact ⟨u, v, eq ▸ List.mem_cons_self⟩
  | @next p s parts hp _ ih =>
    rcases List.append_eq_append_iff.1 eq with ⟨r, rfl, within⟩ | ⟨r, rfl, after⟩
    · -- The text begins in this part, so it ends there too.
      match r with
      | [] => exact absurd (List.cons.inj within).1 hc
      | _ :: r =>
        obtain ⟨rfl, begun⟩ := List.cons.inj within
        rcases List.append_eq_append_iff.1 begun with ⟨q, rfl, ended⟩ | ⟨q, rfl, pending⟩
        · match q with
          | [] => exact absurd (List.cons.inj ended).1 hd
          | _ :: q =>
            obtain ⟨rfl, -⟩ := List.cons.inj ended
            exact ⟨u, q, List.mem_cons_self⟩
        · obtain ⟨q, rfl, -⟩ := bars_eq_append hd pending
          exact absurd ⟨r, q, by simp⟩ he
    · -- The text begins after the bars.
      obtain ⟨r, rfl, rfl⟩ := bars_eq_append hc after
      obtain ⟨u', v', mem⟩ := ih rfl
      exact ⟨u', v', List.mem_cons_of_mem _ mem⟩

theorem cut_singleton_iff {sep : Char} : Cut [sep] s parts ↔ parts = splitAt sep s :=
  ⟨fun h => h.unique (cut_splitAt sep s), fun h => h ▸ cut_splitAt sep s⟩

theorem cut_bars_iff : Cut ['|', '|'] s parts ↔ parts = splitBars s :=
  ⟨fun h => h.unique (cut_splitBars s), fun h => h ▸ cut_splitBars s⟩

end ClaExemption.Text
