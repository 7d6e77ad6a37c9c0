import ClaExemption.Proofs.Text.ByteOrder

/-!
# Decoding is the inverse of encoding

`Spells` lists the bytes that write down one code point. A step of the decoder
reads just those (`step_of_spells`, `spells_of_step`), and a character is
encoded by them (`spells_encodeChar`). So bytes decode exactly if they are those
of a text, and to that text (`decode_eq_ok_iff`). An ASCII byte stands in them
only for its own character (`char_mem_of_mem_encode`).
-/

namespace ClaExemption.Text.Utf8

/-! ## One character -/

/-- The bytes that write down a code point, by how many there are. -/
inductive Spells : List UInt8 → Nat → Prop
  | one {a : UInt8} : a.toNat ≤ 0x7f → Spells [a] a.toNat
  | two {a b : UInt8} : 0xc2 ≤ a.toNat → a.toNat ≤ 0xdf → isSecond a b = true →
    Spells [a, b] ((a.toNat - 0xc0) * 64 + b.toNat % 64)
  | three {a b c : UInt8} : 0xe0 ≤ a.toNat → a.toNat ≤ 0xef → isSecond a b = true →
    isContinuation c = true →
    Spells [a, b, c] ((a.toNat - 0xe0) * 64 * 64 + b.toNat % 64 * 64 + c.toNat % 64)
  | four {a b c d : UInt8} : 0xf0 ≤ a.toNat → a.toNat ≤ 0xf4 → isSecond a b = true →
    isContinuation c = true → isContinuation d = true →
    Spells [a, b, c, d] ((a.toNat - 0xf0) * 64 * 64 * 64 + b.toNat % 64 * 64 * 64
      + c.toNat % 64 * 64 + d.toNat % 64)

/-- The width of a first byte by its number. -/
theorem width_eq (b : UInt8) :
    width b = if b.toNat ≤ 0x7f then 1 else if 0xc2 ≤ b.toNat ∧ b.toNat ≤ 0xdf then 2
      else if 0xe0 ≤ b.toNat ∧ b.toNat ≤ 0xef then 3
      else if 0xf0 ≤ b.toNat ∧ b.toNat ≤ 0xf4 then 4 else 0 := by
  simp only [width, Bool.and_eq_true, decide_eq_true_eq, UInt8.le_iff_toNat_le]
  rfl

theorem isContinuation_iff {b : UInt8} :
    isContinuation b = true ↔ 0x80 ≤ b.toNat ∧ b.toNat ≤ 0xbf := by
  simp [isContinuation, UInt8.le_iff_toNat_le]

theorem isSecond_iff {a b : UInt8} : isSecond a b = true ↔
    (0x80 ≤ b.toNat ∧ b.toNat ≤ 0xbf) ∧ (a.toNat = 0xe0 → 0xa0 ≤ b.toNat) ∧
      (a.toNat = 0xed → b.toNat ≤ 0x9f) ∧ (a.toNat = 0xf0 → 0x90 ≤ b.toNat) ∧
      (a.toNat = 0xf4 → b.toNat ≤ 0x8f) := by
  have ne_or : ∀ {n : UInt8} {p : Bool}, (a != n || p) = true ↔ (a.toNat = n.toNat → p = true) := by
    intro n p
    rw [Bool.or_eq_true, bne_iff_ne, ne_eq, ← UInt8.toNat_inj, Decidable.imp_iff_not_or]
  simp only [isSecond, Bool.and_eq_true, ne_or, isContinuation_iff, decide_eq_true_eq,
    UInt8.le_iff_toNat_le, and_assoc]
  rfl

/-- A step reads the bytes of one code point. -/
theorem step_of_spells {b : UInt8} {more : List UInt8} {n : Nat} (h : Spells (b :: more) n)
    (index : Nat) (after : List UInt8) :
    step index b (more ++ after) = .ok (Char.ofNat n, after) := by
  cases h with
  | one ha =>
    have w : width b = 1 := by rw [width_eq, if_pos ha]
    simp only [step, w, List.nil_append]
  | two hb hb' second =>
    have w : width b = 2 := by rw [width_eq]; split_ifs <;> omega
    simp [step, low, w, second]
  | three hb hb' second third =>
    have w : width b = 3 := by rw [width_eq]; split_ifs <;> omega
    simp [step, low, w, second, third]
  | four hb hb' second third fourth =>
    have w : width b = 4 := by rw [width_eq]; split_ifs <;> omega
    simp [step, low, w, second, third, fourth]

/-- A step that reads a character reads the bytes of its code point. -/
theorem spells_of_step {index : Nat} {b : UInt8} {rest after : List UInt8} {c : Char}
    (h : step index b rest = .ok (c, after)) :
    ∃ more n, rest = more ++ after ∧ Spells (b :: more) n ∧ c = Char.ofNat n := by
  -- The cases are those of `step`; in each one the width that it found bounds the first byte.
  have range := width_eq b
  unfold step at h
  split at h
  · cases h
  · next one =>
    cases h
    refine ⟨[], _, rfl, .one ?_, rfl⟩
    rw [one] at range
    split_ifs at range <;> omega
  · cases h
  · rename_i b₂ rest zero one
    have more : width b ≠ 0 ∧ width b ≠ 1 := ⟨zero, one⟩
    split at h
    · cases h
    · next second =>
      have second : isSecond b b₂ = true := by simpa using second
      split at h
      · next two =>
        cases h
        rw [two] at range
        have bounds : 0xc2 ≤ b.toNat ∧ b.toNat ≤ 0xdf := by split_ifs at range <;> omega
        exact ⟨[b₂], _, rfl, .two bounds.1 bounds.2 second, rfl⟩
      · next two =>
        split at h
        · cases h
        · next b₃ rest =>
          split at h
          · cases h
          · next third =>
            have third : isContinuation b₃ = true := by simpa using third
            split at h
            · next three =>
              cases h
              rw [three] at range
              have bounds : 0xe0 ≤ b.toNat ∧ b.toNat ≤ 0xef := by split_ifs at range <;> omega
              exact ⟨[b₂, b₃], _, rfl, .three bounds.1 bounds.2 second third, rfl⟩
            · next three =>
              split at h
              · cases h
              · next b₄ rest =>
                split at h
                · cases h
                · next fourth =>
                  have fourth : isContinuation b₄ = true := by simpa using fourth
                  cases h
                  have bounds : 0xf0 ≤ b.toNat ∧ b.toNat ≤ 0xf4 := by
                    split_ifs at range <;> omega
                  exact ⟨[b₂, b₃, b₄], _, rfl, .four bounds.1 bounds.2 second third fourth, rfl⟩

/-- The code point of a character that is made from one. -/
theorem toNat_ofNat {n : Nat} (h : n.isValidChar) : (Char.ofNat n).val.toNat = n := by
  rw [Char.ofNat, dif_pos h]
  rfl

/-- Surrogates and numbers beyond the last code point are not written. -/
theorem Spells.valid {bytes : List UInt8} {n : Nat} (h : Spells bytes n) : n.isValidChar := by
  unfold Nat.isValidChar
  cases h with
  | one ha => omega
  | two hb hb' second =>
    have := isSecond_iff.1 second
    omega
  | three hb hb' second third =>
    have := isSecond_iff.1 second
    have := isContinuation_iff.1 third
    omega
  | four hb hb' second third fourth =>
    have := isSecond_iff.1 second
    have := isContinuation_iff.1 third
    have := isContinuation_iff.1 fourth
    omega

/-- A code point is written by the bytes of its character, and no others. -/
theorem Spells.eq_encodeChar {bytes : List UInt8} {n : Nat} (h : Spells bytes n) :
    bytes = String.utf8EncodeChar (Char.ofNat n) := by
  unfold String.utf8EncodeChar
  simp only [toNat_ofNat h.valid]
  cases h with
  | one ha =>
    rw [if_pos ha]
    simp
  | two hb hb' second =>
    have := isSecond_iff.1 second
    rw [if_neg (by omega), if_pos (by omega)]
    simp only [List.cons.injEq, ← UInt8.toNat_inj, UInt8.toNat_ofNat', and_true]
    omega
  | three hb hb' second third =>
    have := isSecond_iff.1 second
    have := isContinuation_iff.1 third
    rw [if_neg (by omega), if_neg (by omega), if_pos (by omega)]
    simp only [List.cons.injEq, ← UInt8.toNat_inj, UInt8.toNat_ofNat', and_true]
    omega
  | four hb hb' second third fourth =>
    have := isSecond_iff.1 second
    have := isContinuation_iff.1 third
    have := isContinuation_iff.1 fourth
    rw [if_neg (by omega), if_neg (by omega), if_neg (by omega)]
    simp only [List.cons.injEq, ← UInt8.toNat_inj, UInt8.toNat_ofNat', and_true]
    omega

/-- Every character is written by bytes of one of the four forms. -/
theorem spells_encodeChar (c : Char) : Spells (String.utf8EncodeChar c) c.toNat := by
  have valid : c.val.toNat.isValidChar := c.valid
  show Spells (String.utf8EncodeChar c) c.val.toNat
  unfold Nat.isValidChar at valid
  unfold String.utf8EncodeChar
  generalize c.val.toNat = n at valid
  dsimp only
  -- The digits that are taken of the code point have to make it up again.
  split_ifs with h₁ h₂ h₃
  · have spelled : Spells [UInt8.ofNat n] (UInt8.ofNat n).toNat :=
      .one (by rw [UInt8.toNat_ofNat']; omega)
    rwa [UInt8.toNat_ofNat', Nat.mod_eq_of_lt (by omega)] at spelled
  · have spelled := Spells.two (a := UInt8.ofNat (n / 64 % 32 + 192))
      (b := UInt8.ofNat (n % 64 + 128)) (by rw [UInt8.toNat_ofNat']; omega)
      (by rw [UInt8.toNat_ofNat']; omega)
      (by simp only [isSecond_iff, UInt8.toNat_ofNat']; omega)
    convert spelled using 1
    simp only [UInt8.toNat_ofNat']
    omega
  · have spelled := Spells.three (a := UInt8.ofNat (n / 4096 % 16 + 224))
      (b := UInt8.ofNat (n / 64 % 64 + 128)) (c := UInt8.ofNat (n % 64 + 128))
      (by rw [UInt8.toNat_ofNat']; omega) (by rw [UInt8.toNat_ofNat']; omega)
      (by simp only [isSecond_iff, UInt8.toNat_ofNat']; omega)
      (by simp only [isContinuation_iff, UInt8.toNat_ofNat']; omega)
    convert spelled using 1
    simp only [UInt8.toNat_ofNat']
    omega
  · have spelled := Spells.four (a := UInt8.ofNat (n / 262144 % 8 + 240))
      (b := UInt8.ofNat (n / 4096 % 64 + 128)) (c := UInt8.ofNat (n / 64 % 64 + 128))
      (d := UInt8.ofNat (n % 64 + 128))
      (by rw [UInt8.toNat_ofNat']; omega) (by rw [UInt8.toNat_ofNat']; omega)
      (by simp only [isSecond_iff, UInt8.toNat_ofNat']; omega)
      (by simp only [isContinuation_iff, UInt8.toNat_ofNat']; omega)
      (by simp only [isContinuation_iff, UInt8.toNat_ofNat']; omega)
    convert spelled using 1
    simp only [UInt8.toNat_ofNat']
    omega

/-! ## Whole texts -/

theorem step_encodeChar (index : Nat) (c : Char) (after : List UInt8) :
    ∃ b more, String.utf8EncodeChar c = b :: more ∧
      step index b (more ++ after) = .ok (c, after) := by
  obtain ⟨b, more, e⟩ := List.exists_cons_of_ne_nil (String.utf8EncodeChar_ne_nil (c := c))
  have read := step_of_spells (e ▸ spells_encodeChar c) index after
  rw [Char.ofNat_toNat] at read
  exact ⟨b, more, e, read⟩

theorem decodeFrom_flatMap (index : Nat) (acc s : List Char) :
    decodeFrom index acc (s.flatMap String.utf8EncodeChar) = .ok (acc.reverse ++ s) := by
  induction s generalizing index acc with
  | nil =>
    rw [List.flatMap_nil, List.append_nil, decodeFrom]
  | cons c s ih =>
    obtain ⟨b, more, e, read⟩ := step_encodeChar index c (s.flatMap String.utf8EncodeChar)
    rw [List.flatMap_cons, e, List.cons_append, decodeFrom]
    split
    · next c' after found =>
      rw [read] at found
      cases found
      rw [ih, List.reverse_cons, List.append_assoc, List.singleton_append]
    · next found =>
      rw [read] at found
      cases found

theorem flatMap_of_decodeFrom {index : Nat} {acc chars : List Char} {bytes : List UInt8}
    (h : decodeFrom index acc bytes = .ok chars) :
    ∃ s, chars = acc.reverse ++ s ∧ bytes = s.flatMap String.utf8EncodeChar := by
  fun_induction decodeFrom index acc bytes with
  | case1 index acc =>
    cases h
    exact ⟨[], (List.append_nil _).symm, rfl⟩
  | case2 index acc b rest c after read _ ih =>
    obtain ⟨s, rfl, rest⟩ := ih h
    obtain ⟨more, n, rfl, spelled, rfl⟩ := spells_of_step read
    refine ⟨Char.ofNat n :: s, by simp, ?_⟩
    rw [List.flatMap_cons, ← spelled.eq_encodeChar, ← rest, List.cons_append]
  | case3 => cases h

/-- Decoding bytes gives the text whose bytes they are, if they are those of one. -/
theorem decode_eq_ok_iff {bytes : List UInt8} {chars : List Char} :
    decode bytes = .ok chars ↔ bytes = encode (String.ofList chars) := by
  rw [encode_eq_flatMap, String.toList_ofList]
  constructor
  · intro h
    obtain ⟨s, rfl, rfl⟩ := flatMap_of_decodeFrom h
    rfl
  · rintro rfl
    exact decodeFrom_flatMap 0 [] chars

theorem decode_encode (s : String) : decode (encode s) = .ok s.toList := by
  rw [decode_eq_ok_iff, String.ofList_toList]

theorem encode_injective {s t : String} (h : encode s = encode t) : s = t := by
  have e := decode_encode s
  rw [h, decode_encode t] at e
  exact (String.toList_injective (Except.ok.inj e)).symm

/-! ## Bytes of ASCII -/

/-- Longer sequences hold no byte of ASCII. -/
theorem Spells.eq_of_mem {bytes : List UInt8} {n : Nat} (h : Spells bytes n) {b : UInt8}
    (ascii : b.toNat ≤ 0x7f) (mem : b ∈ bytes) : n = b.toNat := by
  cases h with
  | one ha =>
    rw [List.mem_singleton.1 mem]
  | two hb hb' second =>
    have := isSecond_iff.1 second
    simp only [List.mem_cons, List.not_mem_nil, or_false] at mem
    rcases mem with rfl | rfl <;> omega
  | three hb hb' second third =>
    have := isSecond_iff.1 second
    have := isContinuation_iff.1 third
    simp only [List.mem_cons, List.not_mem_nil, or_false] at mem
    rcases mem with rfl | rfl | rfl <;> omega
  | four hb hb' second third fourth =>
    have := isSecond_iff.1 second
    have := isContinuation_iff.1 third
    have := isContinuation_iff.1 fourth
    simp only [List.mem_cons, List.not_mem_nil, or_false] at mem
    rcases mem with rfl | rfl | rfl | rfl <;> omega

/-- A byte of ASCII stands for its own character only. -/
theorem char_mem_of_mem_encode {s : String} {b : UInt8} (ascii : b.toNat ≤ 0x7f)
    (mem : b ∈ encode s) : Char.ofNat b.toNat ∈ s.toList := by
  rw [encode_eq_flatMap] at mem
  obtain ⟨c, hc, hb⟩ := List.mem_flatMap.1 mem
  rw [← (spells_encodeChar c).eq_of_mem ascii hb, Char.ofNat_toNat]
  exact hc

end ClaExemption.Text.Utf8

