import ClaExemption.Proofs.Json.Grammar
import ClaExemption.Json.Value
import ClaExemption.Proofs.Number.Decimal
import Mathlib.Tactic.SplitIfs

/-!
# Numbers and texts spell what they are written for

The digits that an integer is written with are a number of the grammar
(`unsigned_toDigits`), which stands for that integer if it fits 64 bits
(`Numeral.ofInt_natCast`, `Numeral.ofInt_negative`). A text is written in quotes
as a text of the grammar whatever its characters are (`content_escaped`), and its
content says just this text (`contentOf_escaped`).
-/

namespace ClaExemption.Json

open Number (decimals decimals_ne_nil digitValue_digitChar eq_zero_of_decimals lt_of_mem_decimals
  ofDigits ofDigits_decimals toDigits_eq_map)

theorem digitIn?_digitChar {base d : Nat} (hd : d < base) (hb : base ≤ 16) :
    digitIn? base (some (Nat.digitChar d)) = some d := by
  refine Number.digitIn?_eq_some.2 ?_
  rw [digitValue_digitChar d (by omega)]
  exact ⟨hd, rfl⟩

/-! ## Numbers -/

theorem digits_map {ds : List Nat} (small : ∀ d ∈ ds, d < 10) (rest : List Glyph) :
    Digits ds ((ds.map Nat.digitChar).map some ++ rest) rest := by
  induction ds with
  | nil => exact .none
  | cons d ds ih =>
    obtain ⟨first, others⟩ := List.forall_mem_cons.1 small
    exact .more (digitIn?_digitChar first (by decide)) (ih others)

theorem isWhole_decimals (n : Nat) : IsWhole (decimals n) := by
  match e : decimals n with
  | [] => exact absurd e (decimals_ne_nil n)
  | [0] => trivial
  | 0 :: _ :: _ =>
    have zero := eq_zero_of_decimals (by rw [e]; rfl)
    rw [zero] at e
    cases e
  | (_ + 1) :: _ => trivial

/-- Digits are a number without fraction and exponent. -/
theorem unsigned_toDigits (negative : Bool) (n : Nat) (rest : List Glyph) :
    Unsigned ⟨negative, decimals n, none, none⟩ ((Nat.toDigits 10 n).map some ++ rest) rest := by
  rw [toDigits_eq_map]
  exact .parts (isWhole_decimals n) (digits_map lt_of_mem_decimals rest) .none .none

/-- The number that an integer is read as. -/
def Numeral.ofInt (n : Int) : Numeral :=
  Written.value ⟨decide (n < 0), decimals n.natAbs, none, none⟩

/-- Digits whose number fits are all taken up. -/
theorem takeSignificand_of_lt {ds : List Nat} {acc : Nat}
    (h : ds.foldl (fun n d => n * 10 + d) acc < UInt64.size) :
    takeSignificand acc ds = (ds.foldl (fun n d => n * 10 + d) acc, []) := by
  induction ds generalizing acc with
  | nil => rfl
  | cons d ds ih =>
    have grows : ∀ (ds : List Nat) (n : Nat), n ≤ ds.foldl (fun n d => n * 10 + d) n := by
      intro ds
      induction ds with
      | nil => exact fun n => Nat.le_refl n
      | cons d ds ih => exact fun n => Nat.le_trans (by omega) (ih (n * 10 + d))
    rw [List.foldl_cons] at h ⊢
    have fits := Nat.lt_of_le_of_lt (grows ds (acc * 10 + d)) h
    rw [takeSignificand, Nat.mul_comm 10 acc, if_pos fits]
    exact ih h

theorem takeSignificand_decimals {n : Nat} (h : n < UInt64.size) :
    takeSignificand 0 (decimals n) = (n, []) := by
  have value := ofDigits_decimals n
  rw [ofDigits] at value
  rw [takeSignificand_of_lt (value.symm ▸ h), value]

theorem Numeral.ofInt_natCast {n : Nat} (h : n < UInt64.size) :
    ofInt n = .natural (UInt64.ofNat n) := by
  have sign : decide ((n : Int) < 0) = false :=
    decide_eq_false (Int.not_lt.2 (Int.natCast_nonneg n))
  rw [ofInt, sign, Int.natAbs_natCast, Written.value, takeSignificand_decimals h]
  rfl

theorem Numeral.ofInt_negative {n : Int} (neg : n < 0) (h : -0x8000000000000000 ≤ n) :
    ofInt n = .negative (Int64.ofInt n) := by
  have fits : ¬ (n.natAbs = 0 ∨ n.natAbs > 0x8000000000000000) := by omega
  have sign : -(n.natAbs : Int) = n := by omega
  rw [ofInt, decide_eq_true neg, Written.value,
    takeSignificand_decimals (Nat.lt_of_le_of_lt (Nat.not_lt.1 (not_or.1 fits).2) (by decide))]
  show (if n.natAbs = 0 ∨ n.natAbs > 0x8000000000000000 then _ else _) = _
  rw [if_neg fits, sign]

/-! ## Texts -/

theorem readCode_controlEscape {c : Char} (h : c.toNat < 0x20) (rest : List Glyph) :
    readCode (some '0' :: some '0' :: some (Nat.digitChar (c.toNat / 16)) ::
      some (Nat.digitChar (c.toNat % 16)) :: rest) = .ok (c.toNat, rest) := by
  have zero : digitIn? 16 (some '0') = some 0 := by decide
  have value : ((0 * 16 + 0) * 16 + c.toNat / 16) * 16 + c.toNat % 16 = c.toNat := by omega
  simp only [readCode, zero, digitIn?_digitChar (show c.toNat / 16 < 16 by omega) (Nat.le_refl _),
    digitIn?_digitChar (show c.toNat % 16 < 16 by omega) (Nat.le_refl _), value]

theorem readUnicode_controlEscape {c : Char} (h : c.toNat < 0x20) (rest : List Glyph) :
    readUnicode (some '0' :: some '0' :: some (Nat.digitChar (c.toNat / 16)) ::
      some (Nat.digitChar (c.toNat % 16)) :: rest) = .ok (c, rest) := by
  have trailing : isTrailing c.toNat = false := by
    rw [isTrailing, decide_eq_false (by omega), Bool.false_and]
  have leading : isLeading c.toNat = false := by
    rw [isLeading, decide_eq_false (by omega), Bool.false_and]
  show (readCode _ >>= fun _ => _) = _
  rw [readCode_controlEscape h]
  show (if isTrailing c.toNat = true then _ else if (!isLeading c.toNat) = true then _ else _) = _
  rw [trailing, leading, Char.ofNat_toNat]
  rfl

/-- The ways to write a character inside the quotes of a text. -/
inductive Escaped (c : Char) : List Char → Prop
  | simple {e : Char} : simpleEscape? e = some c → Escaped c ['\\', e]
  | control : c.toNat < 0x20 → Escaped c (controlEscape c)
  | plain : c ≠ '"' → c ≠ '\\' → ¬ c.toNat < 0x20 → Escaped c [c]

theorem escaped_escapeChar (c : Char) : Escaped c (escapeChar c) := by
  have coded : ∀ {n : Nat} {e : Char}, c.toNat = n → simpleEscape? e = some (Char.ofNat n) →
      Escaped c ['\\', e] := fun code h => .simple (by rw [h, ← code, Char.ofNat_toNat])
  unfold escapeChar
  split_ifs with quote slash newline back tab backspace feed low
  · exact .simple (by rw [quote]; rfl)
  · exact .simple (by rw [slash]; rfl)
  · exact .simple (by rw [newline]; rfl)
  · exact .simple (by rw [back]; rfl)
  · exact .simple (by rw [tab]; rfl)
  · exact coded backspace rfl
  · exact coded feed rfl
  · exact .control low
  · exact .plain quote slash low

variable {c : Char} {written : List Char}

theorem readContent_escaped (h : Escaped c written) (acc : List Char) (rest : List Glyph) :
    readContent false acc (written.map some ++ rest) = readContent false (c :: acc) rest := by
  cases h with
  | @simple e h =>
    have marked : e ≠ 'u' := by
      rintro rfl
      cases h
    show readContent false acc (some '\\' :: some e :: rest) = _
    rw [readContent]
    · rw [h]
    · exact marked
  | control low =>
    have code := readUnicode_controlEscape low rest
    show readContent false acc (some '\\' :: some 'u' :: some '0' :: some '0' :: _) = _
    rw [readContent]
    split
    · next e => cases code.symm.trans e
    · next e =>
      cases code.symm.trans e
      rfl
  | plain quote slash low =>
    show readContent false acc (some c :: rest) = _
    rw [readContent]
    · rw [if_neg low]
    · exact quote
    · exact fun _ => slash
    · exact fun _ _ => slash
    · exact fun _ _ _ => slash
    · exact fun _ _ => slash

theorem Escaped.content {s rest : List Glyph} (h : Escaped c written) (after : Content s rest) :
    Content (written.map some ++ s) rest := by
  cases h with
  | simple h => exact .escape (by rw [h]; rfl) after
  | control low =>
    have digit : ∀ d < 16, (digitIn? 16 (some (Nat.digitChar d))).isSome := by decide
    exact .code (by decide) (by decide) (digit _ (by omega)) (digit _ (by omega)) after
  | plain quote slash low => exact .plain quote slash low after

/-- Whatever characters a text has, it is written as one. -/
theorem content_escaped (cs : List Char) (rest : List Glyph) :
    Content ((cs.flatMap escapeChar ++ ['"']).map some ++ rest) rest := by
  induction cs with
  | nil => exact .close
  | cons c cs ih =>
    rw [List.flatMap_cons, List.append_assoc, List.map_append, List.append_assoc]
    exact (escaped_escapeChar c).content ih

/-- What is written for a text says this text, whatever follows it. -/
theorem contentOf_escaped (s : String) (rest : List Glyph) :
    contentOf ((s.toList.flatMap escapeChar ++ ['"']).map some ++ rest) = .ok s := by
  have content : ∀ (cs acc : List Char),
      readContent false acc ((cs.flatMap escapeChar ++ ['"']).map some ++ rest) =
        .ok (String.ofList (acc.reverse ++ cs)) := by
    intro cs
    induction cs with
    | nil =>
      intro acc
      show readContent false acc (some '"' :: rest) = _
      rw [readContent, List.append_nil]
      rfl
    | cons c cs ih =>
      intro acc
      rw [List.flatMap_cons, List.append_assoc, List.map_append, List.append_assoc,
        readContent_escaped (escaped_escapeChar c), ih, List.reverse_cons, List.append_assoc]
      rfl
  rw [contentOf, content, List.reverse_nil, List.nil_append, String.ofList_toList]

end ClaExemption.Json
