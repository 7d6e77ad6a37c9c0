import ClaExemption.Number.Digit
import Mathlib.Data.List.Induction
import Mathlib.Tactic.SplitIfs

/-!
# Decimal digits and numerals

The decimal digits of a number (`decimals`) stand for that number
(`ofDigits_decimals`), and only zero begins with the digit zero
(`eq_zero_of_decimals`). It is written with the characters of these digits
(`toDigits_eq_map`), and no other decimal numeral without a zero at its front
stands for it (`IsNumeral.eq_toDigits`). The digits at the front of a text are the
longest run of them (`takeDigits_eq_iff`).
-/

namespace ClaExemption.Number

theorem digitValue_digitChar : ∀ d < 16, digitValue (Nat.digitChar d) = d := by decide

/-- The decimal digits of a number, the first one first. -/
def decimals (n : Nat) : List Nat := (Nat.toDigits 10 n).map digitValue

/-- Every number is a digit, or has a last digit after those of a smaller one. -/
@[elab_as_elim]
theorem decimal_induction {P : Nat → Prop} (digit : ∀ n < 10, P n)
    (more : ∀ n, 10 ≤ n → P (n / 10) → P n) (n : Nat) : P n := by
  induction n using Nat.strongRecOn with
  | ind n ih =>
    rcases Nat.lt_or_ge n 10 with h | h
    · exact digit n h
    · exact more n h (ih (n / 10) (by omega))

theorem decimals_of_lt {n : Nat} (h : n < 10) : decimals n = [n] := by
  rw [decimals, Nat.toDigits_of_lt_base h, List.map_singleton, digitValue_digitChar n (by omega)]

theorem decimals_of_le {n : Nat} (h : 10 ≤ n) : decimals n = decimals (n / 10) ++ [n % 10] := by
  rw [decimals, Nat.toDigits_of_base_le (by decide) h, List.map_append, List.map_singleton,
    digitValue_digitChar _ (by omega), decimals]

theorem decimals_ne_nil (n : Nat) : decimals n ≠ [] := by
  rw [decimals, Ne, List.map_eq_nil_iff]
  exact Nat.toDigits_ne_nil

theorem lt_of_mem_decimals {n : Nat} : ∀ d ∈ decimals n, d < 10 := by
  induction n using decimal_induction with
  | digit n h =>
    rw [decimals_of_lt h]
    exact List.forall_mem_singleton.2 h
  | more n h ih =>
    rw [decimals_of_le h]
    exact List.forall_mem_append.2 ⟨ih, List.forall_mem_singleton.2 (Nat.mod_lt n (by decide))⟩

theorem ofDigits_decimals (n : Nat) : ofDigits 10 (decimals n) = n := by
  induction n using decimal_induction with
  | digit n h =>
    rw [decimals_of_lt h]
    exact Nat.zero_add n
  | more n h ih =>
    rw [decimals_of_le h, ofDigits_concat, ih]
    omega

/-- Only zero begins with the digit zero. -/
theorem eq_zero_of_decimals {n : Nat} (first : (decimals n).head? = some 0) : n = 0 := by
  induction n using decimal_induction with
  | digit n h =>
    rw [decimals_of_lt h] at first
    exact Option.some.inj first
  | more n h ih =>
    obtain ⟨d, ds, e⟩ := List.exists_cons_of_ne_nil (decimals_ne_nil (n / 10))
    rw [decimals_of_le h, e] at first
    have zero := ih (by rw [e]; exact first)
    omega

/-- A number is written with the characters of its digits. -/
theorem toDigits_eq_map (n : Nat) : Nat.toDigits 10 n = (decimals n).map Nat.digitChar := by
  induction n using decimal_induction with
  | digit n h => rw [decimals_of_lt h, Nat.toDigits_of_lt_base h, List.map_singleton]
  | more n h ih =>
    rw [decimals_of_le h, Nat.toDigits_of_base_le (by decide) h, ih, List.map_append,
      List.map_singleton]

/-! ## Numerals -/

/-- What does not go on with digits of a base. -/
def NoDigit (base : Nat) (s : List Char) : Prop := ∀ c ∈ s.head?, ¬ digitValue c < base

theorem noDigit_cons {base : Nat} {c : Char} {s : List Char} :
    NoDigit base (c :: s) ↔ ¬ digitValue c < base := by
  simp [NoDigit]

theorem NoDigit.mono {base base' : Nat} {s : List Char} (h : NoDigit base' s)
    (le : base ≤ base') : NoDigit base s :=
  fun c first lt => h c first (Nat.lt_of_lt_of_le lt le)

theorem exists_takeDigits (base : Nat) (s : List Char) :
    ∃ t, s = t ++ (takeDigits base s).2 ∧ (∀ c ∈ t, digitValue c < base) ∧
      t.map digitValue = (takeDigits base s).1 ∧ NoDigit base (takeDigits base s).2 := by
  induction s with
  | nil => exact ⟨[], rfl, nofun, rfl, nofun⟩
  | cons c s ih =>
    unfold takeDigits
    split
    · next d digit =>
      obtain ⟨lt, rfl⟩ := digitIn?_eq_some.1 digit
      obtain ⟨t, e, digits, values, ends⟩ := ih
      exact ⟨c :: t, congrArg (c :: ·) e, List.forall_mem_cons.2 ⟨lt, digits⟩,
        congrArg (digitValue c :: ·) values, ends⟩
    · next none =>
      refine ⟨[], rfl, nofun, rfl, noDigit_cons.2 fun lt => ?_⟩
      rw [digitIn?, if_pos lt] at none
      cases none

/-- The digits that are cut off the front of a text are all that stand there. -/
theorem takeDigits_eq_iff {base : Nat} {s rest : List Char} {ds : List Nat} :
    takeDigits base s = (ds, rest) ↔
      ∃ t, s = t ++ rest ∧ (∀ c ∈ t, digitValue c < base) ∧ t.map digitValue = ds ∧
        NoDigit base rest := by
  constructor
  · intro h
    have cut := exists_takeDigits base s
    rwa [h] at cut
  · rintro ⟨t, rfl, digits, rfl, ends⟩
    induction t with
    | nil =>
      cases rest with
      | nil => rfl
      | cons c rest =>
        rw [List.nil_append, takeDigits, digitIn?, if_neg (noDigit_cons.1 ends)]
        rfl
    | cons c t ih =>
      obtain ⟨lt, digits⟩ := List.forall_mem_cons.1 digits
      rw [List.cons_append, takeDigits, digitIn?, if_pos lt, ih digits]
      rfl

/-- A text is a numeral for a number: at least one digit of the base, and nothing else. -/
structure IsNumeral (base : Nat) (t : List Char) (n : Nat) : Prop where
  ne_nil : t ≠ []
  digits : ∀ c ∈ t, digitValue c < base
  value : ofDigits base (t.map digitValue) = n

theorem IsNumeral.digit {base n : Nat} {t rest : List Char} (h : IsNumeral base t n) :
    ¬ NoDigit base (t ++ rest) := by
  obtain ⟨c, t, rfl⟩ := List.exists_cons_of_ne_nil h.ne_nil
  exact fun none => noDigit_cons.1 none (h.digits c List.mem_cons_self)

theorem isNumeral_toDigits (n : Nat) : IsNumeral 10 (Nat.toDigits 10 n) n := by
  refine ⟨Nat.toDigits_ne_nil, fun c mem => ?_, ofDigits_decimals n⟩
  exact lt_of_mem_decimals _ (List.mem_map_of_mem mem)

theorem eq_digitChar {c : Char} (h : digitValue c < 10) : c = Nat.digitChar (digitValue c) := by
  have all : ∀ n < 58, 48 ≤ n → Char.ofNat n = Nat.digitChar (n - 48) := by decide
  unfold digitValue at h ⊢
  split_ifs at h ⊢ with digit
  · have low : 48 ≤ c.toNat := digit.1
    have high : c.toNat < 58 := Nat.lt_succ_of_le digit.2
    exact (Char.ofNat_toNat c).symm.trans (all c.toNat high low)
  · omega
  · omega
  · omega

/-- A decimal numeral without a zero before other digits is how its number is written. -/
theorem IsNumeral.eq_toDigits {t : List Char} {n : Nat} (h : IsNumeral 10 t n)
    (short : t.head? = some '0' → t.length = 1) : t = Nat.toDigits 10 n := by
  induction t using List.reverseRecOn generalizing n with
  | nil => exact absurd rfl h.ne_nil
  | append_singleton t c ih =>
    have last : digitValue c < 10 := h.digits c (List.mem_append_right _ List.mem_cons_self)
    have value := h.value
    rw [List.map_append, List.map_singleton, ofDigits_concat] at value
    by_cases alone : t = []
    · subst alone
      obtain rfl : digitValue c = n := (Nat.zero_add _).symm.trans value
      rw [Nat.toDigits_of_lt_base last, ← eq_digitChar last, List.nil_append]
    · have noZero : t.head? ≠ some '0' := fun zero => by
        have len := short (by rw [List.head?_append, zero]; rfl)
        have pos := List.length_pos_iff.2 alone
        rw [List.length_append, List.length_singleton] at len
        omega
      have front := ih ⟨alone, fun d hd => h.digits d (List.mem_append_left _ hd), rfl⟩
        (absurd · noZero)
      have pos : ofDigits 10 (t.map digitValue) ≠ 0 := fun zero => by
        rw [zero] at front
        exact noZero (by rw [front]; rfl)
      rw [Nat.toDigits_of_base_le (by decide) (by omega)]
      have quotient : n / 10 = ofDigits 10 (t.map digitValue) := by omega
      have remainder : n % 10 = digitValue c := by omega
      rw [quotient, remainder, ← front, ← eq_digitChar last]

end ClaExemption.Number
