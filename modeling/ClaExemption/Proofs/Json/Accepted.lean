import ClaExemption.Proofs.Json.Grammar

/-!
# The reader accepts the grammar

A text that spells a tree is read as this tree (`Node.IsSpelled.read_eq`). The
induction is on how the text spells it (`Spells.readsAs`). It carries along how
much fuel is enough, which is as much as the piece has characters (`ReadsAs`), and
what comes after a value (`Parted`), so that no number runs on into it.
-/

namespace ClaExemption.Json

variable {s s₁ s₂ rest : List Glyph}

/-! ## White space -/

theorem spaces_skipSpace (s : List Glyph) : Spaces s (skipSpace s) := by
  fun_induction skipSpace s with
  | case1 rest ih => exact .more (by decide) ih
  | case2 rest ih => exact .more (by decide) ih
  | case3 rest ih => exact .more (by decide) ih
  | case4 rest ih => exact .more (by decide) ih
  | case5 => exact .none

theorem Spaces.skipSpace_eq (h : Spaces s rest) : skipSpace s = skipSpace rest := by
  induction h with
  | none => rfl
  | @more c s rest space _ ih =>
    rw [← ih]
    simp only [spaceChars, List.mem_cons, List.not_mem_nil, or_false] at space
    rcases space with rfl | rfl | rfl | rfl <;> rfl

theorem Spaces.length_le (h : Spaces s rest) : rest.length ≤ s.length := by
  induction h with
  | none => exact Nat.le_refl _
  | more _ _ ih => exact Nat.le_succ_of_le ih

/-- Reading a value passes over the white space before it. -/
theorem readValue_of_skipSpace {fuel : Nat} {s₀ : List Glyph}
    (same : skipSpace s₀ = skipSpace s) :
    readValue (fuel + 1) s₀ = readValue (fuel + 1) s := by
  rw [readValue, readValue, same]

/-! ## Numbers -/

/-- What may come right after a value: white space, or what parts it from others or closes what it
is in. -/
inductive Parted : List Glyph → Prop
  | nothing : Parted []
  | char {c : Char} {rest : List Glyph} : c ∈ spaceChars ++ [',', ']', '\x7d'] →
    Parted (some c :: rest)

theorem Spaces.parted {c : Char} (h : Spaces s (some c :: rest)) (closes : c ∈ [',', ']', '\x7d']) :
    Parted s := by
  cases h with
  | none => exact .char (List.mem_append_right _ closes)
  | more space _ => exact .char (List.mem_append_left _ space)

theorem Spaces.parted_nil (h : Spaces s []) : Parted s := by
  cases h with
  | none => exact .nothing
  | more space _ => exact .char (List.mem_append_left _ space)

/-- What does not go on with digits. -/
def NoDigit (s : List Glyph) : Prop := ∀ g ∈ s.head?, digitIn? 10 g = none

theorem digits_takeDigits (s : List Glyph) : Digits (takeDigits s).1 s (takeDigits s).2 := by
  induction s with
  | nil => exact .none
  | cons g s ih =>
    rw [takeDigits]
    split
    · next d digit => exact .more digit ih
    · exact .none

theorem Digits.takeDigits_eq {ds : List Nat} (h : Digits ds s rest) (ends : NoDigit rest) :
    takeDigits s = (ds, rest) := by
  induction h with
  | @none s =>
    cases s with
    | nil => rfl
    | cons g s => rw [takeDigits, ends g rfl]
  | more digit _ ih => rw [takeDigits, digit, ih ends]

theorem Digits.length_eq {ds : List Nat} (h : Digits ds s rest) :
    s.length = ds.length + rest.length := by
  induction h with
  | none => exact (Nat.zero_add _).symm
  | more _ _ ih => rw [List.length_cons, ih, List.length_cons]; omega

theorem digitIn?_eq_none {c : Char} (mem : c ∈ spaceChars ++ [',', ']', '\x7d']) :
    digitIn? 10 (some c) = none := by
  have all : (spaceChars ++ [',', ']', '\x7d']).all
      (fun c => (digitIn? 10 (some c)).isNone) = true := by decide
  exact Option.isNone_iff_eq_none.1 (List.all_eq_true.1 all c mem)

theorem Parted.noDigit (h : Parted s) : NoDigit s := by
  cases h with
  | nothing => exact nofun
  | char mem =>
    intro g e
    cases e
    exact digitIn?_eq_none mem

theorem Parted.readExponent_eq (h : Parted s) : readExponent s = .ok (none, s) := by
  cases h with
  | nothing => rfl
  | char mem =>
    unfold readExponent
    split
    · next e => cases e; exact absurd mem (by decide)
    · next e => cases e; exact absurd mem (by decide)
    · rfl

theorem Sign.readSign_eq {negative : Bool} {d : Nat} {ds : List Nat} (h : Sign negative s s₁)
    (digits : Digits (d :: ds) s₁ rest) : readSign s = (negative, s₁) := by
  cases h with
  | none =>
    cases digits with
    | more digit _ =>
      unfold readSign
      split
      · next e => cases e; exact nomatch (show Option.none = some d from digit)
      · next e => cases e; exact nomatch (show Option.none = some d from digit)
      · rfl
  | plus => rfl
  | minus => rfl

theorem Exponent.readExponent_eq {e : Option (Bool × List Nat)} (h : Exponent e s rest)
    (ends : Parted rest) : readExponent s = .ok (e, rest) := by
  cases h with
  | none => exact ends.readExponent_eq
  | @some mark negative ds s s₁ rest marked sign nonempty digits =>
    obtain ⟨d, ds, rfl⟩ := List.exists_cons_of_ne_nil nonempty
    rcases marked with rfl | rfl <;>
    · unfold readExponent
      simp only [sign.readSign_eq digits, digits.takeDigits_eq ends.noDigit]

theorem Exponent.noDigit {e : Option (Bool × List Nat)} (h : Exponent e s rest)
    (ends : Parted rest) : NoDigit s := by
  cases h with
  | none => exact ends.noDigit
  | some marked =>
    intro g head
    cases head
    rcases marked with rfl | rfl <;> rfl

theorem Fraction.readFraction_eq {f : Option (List Nat)} {e : Option (Bool × List Nat)}
    (h : Fraction f s s₁) (exponent : Exponent e s₁ rest) (ends : Parted rest) :
    readFraction s = .ok (f, s₁) := by
  cases h with
  | none =>
    unfold readFraction
    split
    · next dot =>
      cases exponent with
      | none => cases ends with
        | char mem => exact absurd mem (by decide)
      | some marked => rcases marked with marked | marked <;> exact absurd marked (by decide)
    · rfl
  | @some ds s rest' nonempty digits =>
    obtain ⟨d, ds, rfl⟩ := List.exists_cons_of_ne_nil nonempty
    unfold readFraction
    simp only [digits.takeDigits_eq (exponent.noDigit ends)]

theorem Fraction.noDigit {f : Option (List Nat)} {e : Option (Bool × List Nat)}
    (h : Fraction f s s₁) (exponent : Exponent e s₁ rest) (ends : Parted rest) : NoDigit s := by
  cases h with
  | none => exact exponent.noDigit ends
  | some =>
    intro g head
    cases head
    rfl

theorem readWhole_eq {ds : List Nat} (whole : IsWhole ds) (digits : Digits ds s rest)
    (ends : NoDigit rest) : readWhole s = .ok (ds, rest) := by
  unfold readWhole
  rw [digits.takeDigits_eq ends]
  match ds, whole with
  | [0], _ => rfl
  | (d + 1) :: ds, _ => rfl

/-- A number of the grammar is read as it is written. -/
theorem Unsigned.readNumber_eq {w : Written} (h : Unsigned w s rest) (ends : Parted rest) :
    readNumber w.negative s = .ok (w.value, rest) := by
  obtain ⟨whole, digits, fraction, exponent⟩ := h
  show (readWhole s >>= fun _ => _) = _
  rw [readWhole_eq whole digits (fraction.noDigit exponent ends)]
  show (readFraction _ >>= fun _ => _) = _
  rw [fraction.readFraction_eq exponent ends]
  show (readExponent _ >>= fun _ => _) = _
  rw [exponent.readExponent_eq ends]
  rfl

/-- A number starts with a digit. -/
theorem Unsigned.exists_digit {w : Written} (h : Unsigned w s rest) :
    ∃ c s' d, s = some c :: s' ∧ digitIn? 10 (some c) = some d := by
  obtain ⟨negative, ds, fraction, exponent⟩ := w
  obtain ⟨whole, digits, -, -⟩ := h
  cases digits with
  | none => exact whole.elim
  | @more g d ds s rest digit _ =>
    cases g with
    | none => cases digit
    | some c => exact ⟨c, s, d, rfl, digit⟩

theorem Sign.length_le {negative : Bool} (h : Sign negative s rest) : rest.length ≤ s.length := by
  cases h with
  | none => exact Nat.le_refl _
  | plus => exact Nat.le_succ _
  | minus => exact Nat.le_succ _

theorem Exponent.length_le {e : Option (Bool × List Nat)} (h : Exponent e s rest) :
    rest.length ≤ s.length := by
  cases h with
  | none => exact Nat.le_refl _
  | some _ sign _ digits =>
    have marked := sign.length_le
    have counted := digits.length_eq
    rw [List.length_cons]
    omega

theorem Fraction.length_le {f : Option (List Nat)} (h : Fraction f s rest) :
    rest.length ≤ s.length := by
  cases h with
  | none => exact Nat.le_refl _
  | some _ digits =>
    have counted := digits.length_eq
    rw [List.length_cons]
    omega

theorem Unsigned.length_lt {w : Written} (h : Unsigned w s rest) : rest.length < s.length := by
  obtain ⟨c, s', d, rfl, digit⟩ := h.exists_digit
  obtain ⟨whole, digits, fraction, exponent⟩ := h
  have some_digit : 0 < w.whole.length := by
    cases e : w.whole with
    | nil => rw [e] at whole; exact whole.elim
    | cons => exact Nat.succ_pos _
  have counted := digits.length_eq
  have after := fraction.length_le
  have last := exponent.length_le
  omega

/-! ## Texts -/

theorem readCode_of_digits {a b c d : Glyph} (ha : (digitIn? 16 a).isSome)
    (hb : (digitIn? 16 b).isSome) (hc : (digitIn? 16 c).isSome) (hd : (digitIn? 16 d).isSome)
    (rest : List Glyph) : ∃ n, readCode (a :: b :: c :: d :: rest) = .ok (n, rest) := by
  obtain ⟨a', ha⟩ := Option.isSome_iff_exists.1 ha
  obtain ⟨b', hb⟩ := Option.isSome_iff_exists.1 hb
  obtain ⟨c', hc⟩ := Option.isSome_iff_exists.1 hc
  obtain ⟨d', hd⟩ := Option.isSome_iff_exists.1 hd
  exact ⟨((a' * 16 + b') * 16 + c') * 16 + d', by simp only [readCode, ha, hb, hc, hd]⟩

theorem Content.skipContent_eq (h : Content s rest) : skipContent s = .ok rest := by
  induction h with
  | close => rw [skipContent]
  | @plain c s rest quote slash low _ ih =>
    rw [skipContent]
    · rw [if_neg low, ih]
    · exact quote
    · exact fun _ => slash
    · exact fun _ _ => slash
    · exact fun _ _ _ => slash
    · exact fun _ _ => slash
  | stray _ ih => rw [skipContent, ih]
  | @escape e s rest simple _ ih =>
    have marked : e ≠ 'u' := by
      rintro rfl
      cases simple
    rw [skipContent]
    · rw [if_pos simple, ih]
    · exact marked
  | @code a b c d s rest ha hb hc hd _ ih =>
    obtain ⟨n, code⟩ := readCode_of_digits ha hb hc hd s
    rw [skipContent]
    split
    · next e => cases code.symm.trans e
    · next e =>
      cases code.symm.trans e
      exact ih

theorem Content.length_lt (h : Content s rest) : rest.length < s.length := by
  induction h with
  | close => exact Nat.lt_succ_self _
  | plain _ _ _ _ ih => exact Nat.lt_succ_of_lt ih
  | stray _ ih => exact Nat.lt_succ_of_lt ih
  | escape _ _ ih => simp only [List.length_cons]; omega
  | code _ _ _ _ _ ih => simp only [List.length_cons]; omega

/-! ## The first character of a value -/

/-- A character that is neither white space nor closes a sequence. -/
structure Opens (c : Char) : Prop where
  space : c ∉ spaceChars
  bracket : c ≠ ']'

theorem Opens.skipSpace_eq {c : Char} (h : Opens c) (rest : List Glyph) :
    skipSpace (some c :: rest) = some c :: rest := by
  have solid : ∀ blank ∈ spaceChars, ∀ rest' : List Glyph, some c :: rest = some blank :: rest' →
      False := fun blank mem _ e => h.space (Option.some.inj (List.cons.inj e).1 ▸ mem)
  rw [skipSpace]
  · exact solid ' ' (by decide)
  · exact solid '\t' (by decide)
  · exact solid '\n' (by decide)
  · exact solid '\r' (by decide)

theorem opens_digit {c : Char} {d : Nat} (digit : digitIn? 10 (some c) = some d) : Opens c := by
  constructor
  · intro mem
    rw [digitIn?_eq_none (List.mem_append_left _ mem)] at digit
    cases digit
  · intro e
    rw [e, digitIn?_eq_none (by decide)] at digit
    cases digit

/-- By the first character of a value the reader knows that there is one. -/
theorem Spells.opens {v : Node} (h : Spells (.value v) s rest) :
    ∃ c s', s = some c :: s' ∧ Opens c := by
  cases h with
  | positive _ number =>
    obtain ⟨c, s', d, rfl, digit⟩ := number.exists_digit
    exact ⟨c, s', rfl, opens_digit digit⟩
  | _ => exact ⟨_, _, rfl, by decide, by decide⟩

theorem Spells.skipSpace_eq {v : Node} (h : Spells (.value v) s rest) : skipSpace s = s := by
  obtain ⟨c, s', rfl, opens⟩ := h.opens
  exact opens.skipSpace_eq s'

theorem Spells.opens_items {items : List Node} (h : Spells (.items items) s rest) :
    ∃ c s', skipSpace s = some c :: s' ∧ Opens c := by
  cases h with
  | lastItem space value _ =>
    rw [space.skipSpace_eq, value.skipSpace_eq]
    exact value.opens
  | nextItem space value _ _ =>
    rw [space.skipSpace_eq, value.skipSpace_eq]
    exact value.opens

/-- A tree that a text spells is whole. -/
theorem Spells.stop_eq {v : Node} (h : Spells (.value v) s rest) : v.stop = none := by
  cases h <;> rfl

/-- A piece takes up some of the text. -/
theorem Spells.length_lt {p : Piece} (h : Spells p s rest) : rest.length < s.length := by
  induction h with
  | null | yes | no =>
    rw [List.length_append]
    exact Nat.lt_add_of_pos_left (by decide)
  | positive _ number => exact number.length_lt
  | negative _ number => exact Nat.lt_succ_of_lt number.length_lt
  | text content => exact Nat.lt_succ_of_lt content.length_lt
  | emptyArray space =>
    have closed := space.length_le
    simp only [List.length_cons] at closed ⊢
    omega
  | array _ ih => exact Nat.lt_succ_of_lt ih
  | emptyObject space =>
    have closed := space.length_le
    simp only [List.length_cons] at closed ⊢
    omega
  | object space _ ih =>
    have opened := space.length_le
    simp only [List.length_cons] at opened ⊢
    omega
  | lastItem space _ closes ih =>
    have before := space.length_le
    have closed := closes.length_le
    simp only [List.length_cons] at closed
    omega
  | nextItem space _ parts _ ih others =>
    have before := space.length_le
    have parted := parts.length_le
    simp only [List.length_cons] at parted
    omega
  | lastMember name colon space _ closes ih =>
    have named := name.length_lt
    have said := colon.length_le
    have before := space.length_le
    have closed := closes.length_le
    simp only [List.length_cons] at said closed
    omega
  | nextMember name colon space _ parts next _ ih others =>
    have named := name.length_lt
    have said := colon.length_le
    have before := space.length_le
    have parted := parts.length_le
    have opened := next.length_le
    simp only [List.length_cons] at said parted opened
    omega

/-! ## Values -/

variable {fuel : Nat}

theorem readNumeral_eq {negative : Bool} {w : Written} (number : Unsigned w s rest)
    (sign : w.negative = negative) (ends : Parted rest) :
    readNumeral negative s = (.number w.value, rest) := by
  rw [readNumeral, ← sign, number.readNumber_eq ends]
  rfl

theorem readValue_digit {c : Char} {d : Nat} (digit : digitIn? 10 (some c) = some d)
    (rest : List Glyph) :
    readValue (fuel + 1) (some c :: rest) = readNumeral false (some c :: rest) := by
  have space : skipSpace (some c :: rest) = some c :: rest := (opens_digit digit).skipSpace_eq rest
  have noDigit : ∀ {mark : Char}, digitIn? 10 (some mark) = none → some c ≠ some mark :=
    fun none e => by rw [e, none] at digit; cases digit
  rw [readValue, space]
  split
  · next e => cases e
  · next e => exact absurd (List.cons.inj e).1 (noDigit rfl)
  · next e => exact absurd (List.cons.inj e).1 (noDigit rfl)
  · next e => exact absurd (List.cons.inj e).1 (noDigit rfl)
  · next e => exact absurd (List.cons.inj e).1 (noDigit rfl)
  · next e => exact absurd (List.cons.inj e).1 (noDigit rfl)
  · next e => exact absurd (List.cons.inj e).1 (noDigit rfl)
  · next e => exact absurd (List.cons.inj e).1 (noDigit rfl)
  · next e =>
    cases e
    rw [digit]
    rfl

theorem readValue_text (content : Content s rest) :
    readValue (fuel + 1) (some '"' :: s) = (.text (contentOf s), rest) := by
  have opening : skipSpace (some '"' :: s) = some '"' :: s := rfl
  rw [readValue, opening]
  simp only [readText, content.skipContent_eq, contentOf]

theorem readValue_emptyArray (closes : skipSpace s = some ']' :: rest) :
    readValue (fuel + 1) (some '[' :: s) = (.array [] none, rest) := by
  have opening : skipSpace (some '[' :: s) = some '[' :: s := rfl
  rw [readValue, opening]
  simp only [closes]

/-- A sequence that is not closed at once is read item by item. -/
theorem readValue_array {c : Char} {s' rest' : List Glyph} {items : List Node}
    {stop : Option Fault} (opens : Opens c) (space : skipSpace s = some c :: s')
    (read : readItems fuel (some c :: s') = (items, stop, rest')) :
    readValue (fuel + 1) (some '[' :: s) = (.array items stop, rest') := by
  have opening : skipSpace (some '[' :: s) = some '[' :: s := rfl
  rw [readValue, opening]
  simp only [space]
  split
  · next e => exact absurd (Option.some.inj (List.cons.inj e).1) opens.bracket
  · next e => cases e
  · rw [read]

theorem readValue_emptyObject (closes : skipSpace s = some '\x7d' :: rest) :
    readValue (fuel + 1) (some '\x7b' :: s) = (.object [] none, rest) := by
  have opening : skipSpace (some '\x7b' :: s) = some '\x7b' :: s := rfl
  rw [readValue, opening]
  simp only [closes]

theorem readValue_object {rest' : List Glyph} {members : List (Except Fault String × Node)}
    {stop : Option Fault} (space : skipSpace s = some '"' :: s₁)
    (read : readMembers fuel s₁ = (members, stop, rest')) :
    readValue (fuel + 1) (some '\x7b' :: s) = (.object members stop, rest') := by
  have opening : skipSpace (some '\x7b' :: s) = some '\x7b' :: s := rfl
  rw [readValue, opening]
  simp only [space, read]

section Parts

variable {value : Node} {stop : Option Fault} {s₃ s₄ s₅ s₆ : List Glyph}

theorem readItems_last (read : readValue fuel s = (value, s₁)) (whole : value.stop = none)
    (closes : skipSpace s₁ = some ']' :: rest) :
    readItems (fuel + 1) s = ([value], none, rest) := by
  rw [readItems, read]
  simp only [whole, closes]

theorem readItems_next {items : List Node} (read : readValue fuel s = (value, s₁))
    (whole : value.stop = none) (parts : skipSpace s₁ = some ',' :: s₂)
    (others : readItems fuel s₂ = (items, stop, rest)) :
    readItems (fuel + 1) s = (value :: items, stop, rest) := by
  rw [readItems, read]
  simp only [whole, parts, others]

theorem readMembers_last (name : Content s s₁) (colon : skipSpace s₁ = some ':' :: s₂)
    (read : readValue fuel s₂ = (value, s₃)) (whole : value.stop = none)
    (closes : skipSpace s₃ = some '\x7d' :: rest) :
    readMembers (fuel + 1) s = ([(contentOf s, value)], none, rest) := by
  rw [readMembers]
  simp only [readText, name.skipContent_eq, colon, read, whole, closes, contentOf]

theorem readMembers_next {members : List (Except Fault String × Node)} (name : Content s s₁)
    (colon : skipSpace s₁ = some ':' :: s₂) (read : readValue fuel s₂ = (value, s₃))
    (whole : value.stop = none) (parts : skipSpace s₃ = some ',' :: s₄)
    (opens : skipSpace s₄ = some '"' :: s₅) (others : readMembers fuel s₅ = (members, stop, rest)) :
    readMembers (fuel + 1) s = ((contentOf s, value) :: members, stop, rest) := by
  rw [readMembers]
  simp only [readText, name.skipContent_eq, colon, read, whole, parts, opens, others, contentOf]

end Parts

/-- What the reader makes of a piece. Each step of it passes over a character at least, so fuel for
as many steps as there are characters is enough. -/
def ReadsAs : Piece → List Glyph → List Glyph → Prop
  | .value v, s, rest => ∀ fuel, s.length ≤ fuel + rest.length → Parted rest →
    readValue fuel s = (v, rest)
  | .items items, s, rest => ∀ fuel s₀, skipSpace s₀ = skipSpace s →
    s.length ≤ fuel + rest.length → readItems fuel s₀ = (items, none, rest)
  | .members members, s, rest => ∀ fuel, s.length ≤ fuel + rest.length →
    readMembers fuel s = (members, none, rest)

theorem exists_fuel {p : Piece} (h : Spells p s rest) (enough : s.length ≤ fuel + rest.length) :
    ∃ n, fuel = n + 1 := by
  have taken := h.length_lt
  exact ⟨fuel - 1, by omega⟩

/-- A value is read with the white space before it. -/
theorem ReadsAs.after_space {v : Node} {s₀ : List Glyph} (h : Spells (.value v) s rest)
    (reads : ReadsAs (.value v) s rest) (space : skipSpace s₀ = s)
    (enough : s.length ≤ fuel + rest.length) (ends : Parted rest) :
    readValue fuel s₀ = (v, rest) := by
  have read := reads fuel enough ends
  obtain ⟨fuel, rfl⟩ := exists_fuel h enough
  rw [readValue_of_skipSpace (space.trans h.skipSpace_eq.symm), read]

/-- The reader reads what the grammar has. -/
theorem Spells.readsAs {p : Piece} (h : Spells p s rest) : ReadsAs p s rest := by
  induction h with
  | null =>
    intro fuel enough _
    obtain ⟨fuel, rfl⟩ := exists_fuel .null enough
    rfl
  | yes =>
    intro fuel enough _
    obtain ⟨fuel, rfl⟩ := exists_fuel .yes enough
    rfl
  | no =>
    intro fuel enough _
    obtain ⟨fuel, rfl⟩ := exists_fuel .no enough
    rfl
  | positive sign number =>
    intro fuel enough ends
    obtain ⟨fuel, rfl⟩ := exists_fuel (.positive sign number) enough
    obtain ⟨c, s', d, rfl, digit⟩ := number.exists_digit
    rw [readValue_digit digit, readNumeral_eq number sign ends]
  | @negative w s rest sign number =>
    intro fuel enough ends
    obtain ⟨fuel, rfl⟩ := exists_fuel (.negative sign number) enough
    show readNumeral true s = _
    exact readNumeral_eq number sign ends
  | text content =>
    intro fuel enough _
    obtain ⟨fuel, rfl⟩ := exists_fuel (.text content) enough
    exact readValue_text content
  | emptyArray space =>
    intro fuel enough _
    obtain ⟨fuel, rfl⟩ := exists_fuel (.emptyArray space) enough
    exact readValue_emptyArray space.skipSpace_eq
  | array items ih =>
    intro fuel enough _
    obtain ⟨fuel, rfl⟩ := exists_fuel (.array items) enough
    obtain ⟨c, s', space, opens⟩ := items.opens_items
    have same : skipSpace (some c :: s') = skipSpace _ := (opens.skipSpace_eq s').trans space.symm
    rw [List.length_cons] at enough
    exact readValue_array opens space (ih fuel _ same (by omega))
  | emptyObject space =>
    intro fuel enough _
    obtain ⟨fuel, rfl⟩ := exists_fuel (.emptyObject space) enough
    exact readValue_emptyObject space.skipSpace_eq
  | object space members ih =>
    intro fuel enough _
    obtain ⟨fuel, rfl⟩ := exists_fuel (.object space members) enough
    have opened := space.length_le
    simp only [List.length_cons] at enough opened
    exact readValue_object space.skipSpace_eq (ih fuel (by omega))
  | lastItem space item closes ih =>
    intro fuel s₀ same enough
    obtain ⟨fuel, rfl⟩ := exists_fuel (.lastItem space item closes) enough
    have before := space.length_le
    have closed := closes.length_le
    rw [List.length_cons] at closed
    refine readItems_last (ih.after_space item ?_ (by omega) (closes.parted (by decide)))
      item.stop_eq closes.skipSpace_eq
    rw [same, space.skipSpace_eq, item.skipSpace_eq]
  | nextItem space item parts items ih others =>
    intro fuel s₀ same enough
    obtain ⟨fuel, rfl⟩ := exists_fuel (.nextItem space item parts items) enough
    have before := space.length_le
    have parted := parts.length_le
    have taken := item.length_lt
    have left := items.length_lt
    rw [List.length_cons] at parted
    refine readItems_next (ih.after_space item ?_ (by omega) (parts.parted (by decide)))
      item.stop_eq parts.skipSpace_eq (others fuel _ rfl (by omega))
    rw [same, space.skipSpace_eq, item.skipSpace_eq]
  | lastMember name colon space value closes ih =>
    intro fuel enough
    obtain ⟨fuel, rfl⟩ := exists_fuel (.lastMember name colon space value closes) enough
    have named := name.length_lt
    have said := colon.length_le
    have before := space.length_le
    have closed := closes.length_le
    rw [List.length_cons] at said closed
    refine readMembers_last name colon.skipSpace_eq
      (ih.after_space value ?_ (by omega) (closes.parted (by decide))) value.stop_eq
      closes.skipSpace_eq
    rw [space.skipSpace_eq, value.skipSpace_eq]
  | nextMember name colon space value parts next members ih others =>
    intro fuel enough
    obtain ⟨fuel, rfl⟩ := exists_fuel (.nextMember name colon space value parts next members) enough
    have named := name.length_lt
    have said := colon.length_le
    have before := space.length_le
    have parted := parts.length_le
    have opened := next.length_le
    have taken := value.length_lt
    have left := members.length_lt
    rw [List.length_cons] at said parted opened
    refine readMembers_next name colon.skipSpace_eq
      (ih.after_space value ?_ (by omega) (parts.parted (by decide))) value.stop_eq
      parts.skipSpace_eq next.skipSpace_eq (others fuel (by omega))
    rw [space.skipSpace_eq, value.skipSpace_eq]

/-- A text that spells a tree is read as it, and nothing is left over. -/
theorem Node.IsSpelled.read_eq {t : Node} (h : t.IsSpelled s) : Node.read s = (t, true) := by
  obtain ⟨s₁, s₂, before, value, after⟩ := h
  have started := before.length_le
  have enough : s₁.length ≤ 2 * s.length + 1 + s₂.length := by omega
  have read := value.readsAs.after_space value (before.skipSpace_eq.trans value.skipSpace_eq) enough
    after.parted_nil
  rw [Node.read, read]
  show (t, (skipSpace s₂).isEmpty) = _
  rw [after.skipSpace_eq]
  rfl

end ClaExemption.Json
