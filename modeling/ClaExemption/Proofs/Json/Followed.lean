import ClaExemption.Proofs.Json.Accepted
import ClaExemption.Proofs.Json.Sequence

/-!
# The reader follows the grammar

What the reader takes for a whole tree is spelled by what it has read, whatever
its fuel is (`Sound`). Together with the other direction, a text spells a tree
exactly if it is read as this tree in full (`Node.isSpelled_iff`).
-/

namespace ClaExemption.Json

variable {s s₁ s₂ rest : List Glyph}

/-! ## Words and numbers -/

theorem eq_of_matchWord {cs : List Char} (h : matchWord cs s = .ok rest) :
    s = cs.map some ++ rest := by
  induction cs generalizing s with
  | nil => cases h; rfl
  | cons c cs ih =>
    cases s with
    | nil => cases h
    | cons g s =>
      rw [matchWord] at h
      split at h
      · next same => rw [same, ih h]; rfl
      · cases h

theorem of_readWhole {ds : List Nat} (h : readWhole s = .ok (ds, rest)) :
    IsWhole ds ∧ Digits ds s rest := by
  have digits := digits_takeDigits s
  unfold readWhole at h
  split at h
  · cases h
  · cases h
  · next nonempty noZero taken =>
    cases h
    rw [taken] at digits
    refine ⟨?_, digits⟩
    match ds, nonempty, noZero with
    | [], nonempty, _ => exact nonempty rfl
    | 0 :: _ :: _, _, noZero => exact noZero _ _ rfl
    | [0], _, _ => trivial
    | (_ + 1) :: _, _, _ => trivial

theorem of_readFraction {f : Option (List Nat)} (h : readFraction s = .ok (f, rest)) :
    Fraction f s rest := by
  unfold readFraction at h
  split at h
  · next s =>
    have digits := digits_takeDigits s
    split at h
    · cases h
    · next nonempty taken =>
      cases h
      rw [taken] at digits
      exact .some nonempty digits
  · cases h
    exact .none

theorem sign_readSign (s : List Glyph) : Sign (readSign s).1 s (readSign s).2 := by
  unfold readSign
  split
  · exact .plus
  · exact .minus
  · exact .none

theorem of_readExponent {e : Option (Bool × List Nat)} (h : readExponent s = .ok (e, rest)) :
    Exponent e s rest := by
  unfold readExponent at h
  split at h
  case h_1 s | h_2 s =>
    have sign := sign_readSign s
    generalize readSign s = signed at h sign
    obtain ⟨negative, s₁⟩ := signed
    have digits := digits_takeDigits s₁
    dsimp only at h
    split at h
    · cases h
    · next nonempty taken =>
      cases h
      rw [taken] at digits
      exact .some (by decide) sign nonempty digits
  case h_3 =>
    cases h
    exact .none

theorem exists_of_readNumber {negative : Bool} {n : Numeral}
    (h : readNumber negative s = .ok (n, rest)) :
    ∃ w, w.negative = negative ∧ n = w.value ∧ Unsigned w s rest := by
  obtain ⟨⟨ds, s₁⟩, whole, h⟩ := bind_eq_ok_iff.1 h
  obtain ⟨⟨f, s₂⟩, fraction, h⟩ := bind_eq_ok_iff.1 h
  obtain ⟨⟨e, s₃⟩, exponent, h⟩ := bind_eq_ok_iff.1 h
  cases h
  obtain ⟨isWhole, digits⟩ := of_readWhole whole
  exact ⟨⟨negative, ds, f, e⟩, rfl, rfl,
    .parts isWhole digits (of_readFraction fraction) (of_readExponent exponent)⟩

/-! ## Texts -/

theorem exists_of_readCode {n : Nat} (h : readCode s = .ok (n, rest)) :
    ∃ a b c d, s = a :: b :: c :: d :: rest ∧ (digitIn? 16 a).isSome ∧ (digitIn? 16 b).isSome ∧
      (digitIn? 16 c).isSome ∧ (digitIn? 16 d).isSome := by
  unfold readCode at h
  dsimp only at h
  split at h
  · next a b c d s =>
    split at h
    · next ha hb hc hd =>
      cases h
      exact ⟨a, b, c, d, rfl, by rw [ha]; rfl, by rw [hb]; rfl, by rw [hc]; rfl, by rw [hd]; rfl⟩
    · split at h <;> cases h
  · split at h <;> cases h

theorem content_of_skipContent (h : skipContent s = .ok rest) : Content s rest := by
  fun_induction skipContent s with
  | case1 | case3 | case4 | case7 | case8 | case9 => cases h
  | case2 =>
    cases h
    exact .close
  | case5 s _ after read _ ih =>
    obtain ⟨a, b, c, d, rfl, ha, hb, hc, hd⟩ := exists_of_readCode read
    exact .code ha hb hc hd (ih h)
  | case6 e s _ simple ih => exact .escape simple (ih h)
  | case10 c s quote last code escape stray low ih =>
    refine .plain quote (fun slash => ?_) low (ih h)
    match s with
    | [] => exact last rfl slash
    | none :: s => exact stray s rfl slash
    | some e :: s => exact escape e s rfl slash
  | case11 s ih => exact .stray (ih h)

/-! ## Values -/

variable {fuel : Nat}

/-- What the reader takes for whole follows the grammar, with any fuel. -/
structure Sound (fuel : Nat) : Prop where
  value {v : Node} {s rest : List Glyph} : readValue fuel s = (v, rest) → v.stop = none →
    Spells (.value v) (skipSpace s) rest
  items {items : List Node} {s rest : List Glyph} : readItems fuel s = (items, none, rest) →
    Spells (.items items) s rest
  members {members : List (Except Fault String × Node)} {s rest : List Glyph} :
    readMembers fuel s = (members, none, rest) → Spells (.members members) s rest

/-- The white space after which something is found. -/
theorem spaces_of_skipSpace (h : skipSpace s = rest) : Spaces s rest := h ▸ spaces_skipSpace s

theorem Spaces.trans (h : Spaces s s₁) (h' : Spaces s₁ rest) : Spaces s rest := by
  induction h with
  | none => exact h'
  | more space _ ih => exact .more space (ih h')

/-- White space before the first item belongs to the items. -/
theorem Spells.after_space {items : List Node} (h : Spells (.items items) s₁ rest)
    (space : Spaces s s₁) : Spells (.items items) s rest := by
  cases h with
  | lastItem before item closes => exact .lastItem (space.trans before) item closes
  | nextItem before item parts others => exact .nextItem (space.trans before) item parts others

theorem Sound.items_succ (sound : Sound fuel) {items : List Node}
    (h : readItems (fuel + 1) s = (items, none, rest)) : Spells (.items items) s rest := by
  rw [readItems] at h
  cases read : readValue fuel s with
  | mk item after =>
    rw [read] at h
    cases whole : item.stop with
    | some f => simp [whole] at h
    | none =>
      simp only [whole] at h
      have value := sound.value read whole
      split at h
      · next closes =>
        cases h
        exact .lastItem (spaces_skipSpace s) value (spaces_of_skipSpace closes)
      · next after' parts =>
        cases others : readItems fuel after' with
        | mk items result =>
          obtain ⟨stop, rest'⟩ := result
          rw [others] at h
          cases h
          exact .nextItem (spaces_skipSpace s) value (spaces_of_skipSpace parts)
            (sound.items others)
      · cases h

theorem Sound.members_succ (sound : Sound fuel) {members : List (Except Fault String × Node)}
    (h : readMembers (fuel + 1) s = (members, none, rest)) : Spells (.members members) s rest := by
  rw [readMembers] at h
  cases named : skipContent s with
  | error f => simp [readText, named] at h
  | ok s₁ =>
    have name := content_of_skipContent named
    simp only [readText, named] at h
    split at h
    · next s₂ colon =>
      cases read : readValue fuel s₂ with
      | mk value after =>
        rw [read] at h
        cases whole : value.stop with
        | some f => simp [whole] at h
        | none =>
          simp only [whole] at h
          have value := sound.value read whole
          split at h
          · next closes =>
            cases h
            exact .lastMember name (spaces_of_skipSpace colon) (spaces_skipSpace s₂) value
              (spaces_of_skipSpace closes)
          · next after' parts =>
            split at h
            · next after'' opens =>
              cases others : readMembers fuel after'' with
              | mk members result =>
                obtain ⟨stop, rest'⟩ := result
                rw [others] at h
                cases h
                exact .nextMember name (spaces_of_skipSpace colon) (spaces_skipSpace s₂) value
                  (spaces_of_skipSpace parts) (spaces_of_skipSpace opens) (sound.members others)
            · cases h
          · cases h
    · cases h

theorem of_readWord {node v : Node} {word : String} (h : readWord node word s = (v, rest))
    (whole : v.stop = none) : v = node ∧ s = word.toList.map some ++ rest := by
  unfold readWord at h
  cases matched : matchWord word.toList s with
  | error f => rw [matched] at h; cases h; cases whole
  | ok after =>
    rw [matched] at h
    cases h
    exact ⟨rfl, eq_of_matchWord matched⟩

theorem of_readNumeral {negative : Bool} {v : Node} (h : readNumeral negative s = (v, rest))
    (whole : v.stop = none) :
    ∃ w, w.negative = negative ∧ v = .number w.value ∧ Unsigned w s rest := by
  unfold readNumeral at h
  cases read : readNumber negative s with
  | error f => rw [read] at h; cases h; cases whole
  | ok result =>
    obtain ⟨n, after⟩ := result
    rw [read] at h
    cases h
    obtain ⟨w, sign, rfl, number⟩ := exists_of_readNumber read
    exact ⟨w, sign, rfl, number⟩

theorem Sound.value_succ (sound : Sound fuel) {v : Node} (h : readValue (fuel + 1) s = (v, rest))
    (whole : v.stop = none) : Spells (.value v) (skipSpace s) rest := by
  rw [readValue] at h
  split at h
  · cases h
    cases whole
  · next first =>
    obtain ⟨rfl, rfl⟩ := of_readWord h whole
    rw [first]
    exact .null
  · next first =>
    obtain ⟨rfl, rfl⟩ := of_readWord h whole
    rw [first]
    exact .yes
  · next first =>
    obtain ⟨rfl, rfl⟩ := of_readWord h whole
    rw [first]
    exact .no
  · next first =>
    obtain ⟨w, sign, rfl, number⟩ := of_readNumeral h whole
    rw [first]
    exact .negative sign number
  · next s₁ first =>
    rw [first]
    cases skipped : skipContent s₁ with
    | error f =>
      cases content : readContent false [] s₁ <;>
      · simp only [readText, skipped, content] at h
        cases h
        cases whole
    | ok after =>
      simp only [readText, skipped] at h
      cases h
      exact .text (content_of_skipContent skipped)
  · next s₁ first =>
    rw [first]
    split at h
    · next closes =>
      cases h
      exact .emptyArray (spaces_of_skipSpace closes)
    · cases h
      cases whole
    · cases read : readItems fuel (skipSpace s₁) with
      | mk items result =>
        obtain ⟨stop, after⟩ := result
        rw [read] at h
        cases h
        cases (show stop = none from whole)
        exact .array ((sound.items read).after_space (spaces_skipSpace s₁))
  · next s₁ first =>
    rw [first]
    split at h
    · next closes =>
      cases h
      exact .emptyObject (spaces_of_skipSpace closes)
    · cases h
      cases whole
    · next s₂ opens =>
      cases read : readMembers fuel s₂ with
      | mk members result =>
        obtain ⟨stop, after⟩ := result
        rw [read] at h
        cases h
        cases (show stop = none from whole)
        exact .object (spaces_of_skipSpace opens) (sound.members read)
    · cases h
      cases whole
  · next g s₁ _ _ _ _ _ _ _ first =>
    split at h
    · obtain ⟨w, sign, rfl, number⟩ := of_readNumeral h whole
      rw [first]
      exact .positive sign number
    · cases h
      cases whole

theorem sound (fuel : Nat) : Sound fuel := by
  induction fuel with
  | zero =>
    refine ⟨fun h whole => ?_, fun h => ?_, fun h => ?_⟩
    · cases h
      cases whole
    · cases h
    · cases h
  | succ fuel ih => exact ⟨ih.value_succ, ih.items_succ, ih.members_succ⟩

/-- A text spells a tree exactly if it is read as it in full. -/
theorem Node.isSpelled_iff {t : Node} :
    t.IsSpelled s ↔ Node.read s = (t, true) ∧ t.stop = none := by
  constructor
  · intro h
    obtain ⟨s₁, s₂, before, value, after⟩ := id h
    exact ⟨h.read_eq, value.stop_eq⟩
  · rintro ⟨read, whole⟩
    unfold Node.read at read
    cases first : readValue (2 * s.length + 1) s with
    | mk v after =>
      rw [first] at read
      obtain ⟨rfl, ends⟩ := Prod.mk.inj read
      exact ⟨skipSpace s, after, spaces_skipSpace s, (sound _).value first whole,
        spaces_of_skipSpace (List.isEmpty_iff.1 ends)⟩

end ClaExemption.Json
