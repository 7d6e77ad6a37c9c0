import ClaExemption.Proofs.Address.Spelling

/-!
# Readers of addresses follow the grammar

Each reader takes something from the front of a text just if it is spelled there.
What it takes is spelled so (`V6.read_sound`, `Host.read_sound`), and each spelling
is read as a whole if what stands after it cannot be a part of it
(`V6.read_complete`, `Host.read_complete`). Rows of groups are where this has to be
said with care: a reader that looks for groups takes all it can, up to a bound, and
tries an address of version four before each group (`readGroups_sound`,
`readGroups_row`).
-/

namespace ClaExemption.Address

open Number (IsNumeral NoDigit digitValue noDigit_cons ofDigits takeDigits takeDigits_eq_iff)
open Text (afterChar? afterChar?_eq_some)

variable {s rest : List Char}

/-! ## Numbers -/

/-- A numeral is short enough for a form, and its number small enough. -/
structure NumberForm.Fits (form : NumberForm) (t : List Char) (n : Nat) : Prop where
  length : ∀ most, form.maxDigits = some most → t.length ≤ most
  zeros : form.leadingZeros = true ∨ (t.map digitValue).head? ≠ some 0 ∨ t.length = 1
  limit : n < form.limit

theorem NumberForm.admits_iff {form : NumberForm} {t : List Char} :
    form.admits (t.map digitValue) = true ↔
      t ≠ [] ∧ form.Fits t (ofDigits form.radix (t.map digitValue)) := by
  have all : form.maxDigits.all (fun most => decide (t.length ≤ most)) = true ↔
      ∀ most, form.maxDigits = some most → t.length ≤ most := by
    cases form.maxDigits <;> simp
  simp only [admits, Bool.and_eq_true, Bool.or_eq_true, decide_eq_true_eq, List.length_map, all,
    bne_iff_ne, beq_iff_eq, Bool.not_eq_true', List.isEmpty_eq_false_iff, ne_eq,
    List.map_eq_nil_iff]
  constructor
  · rintro ⟨⟨⟨ne, length⟩, zeros⟩, limit⟩
    exact ⟨ne, length, or_assoc.1 zeros, limit⟩
  · rintro ⟨ne, length, zeros, limit⟩
    exact ⟨⟨⟨ne, length⟩, or_assoc.2 zeros⟩, limit⟩

/-- In a form without a bound on digits only the number counts. -/
theorem NumberForm.fits_of_lt (form : NumberForm) {t : List Char} {n : Nat}
    (noBound : form.maxDigits = none) (zeros : form.leadingZeros = true) (lt : n < form.limit) :
    form.Fits t n := by
  refine ⟨fun most bound => ?_, .inl zeros, lt⟩
  rw [noBound] at bound
  cases bound

/-- A number is read from all the digits at the front, if they are a numeral of the form. -/
theorem readNumber_eq_some_iff {form : NumberForm} {n : Nat} :
    readNumber form s = some (n, rest) ↔
      ∃ t, s = t ++ rest ∧ IsNumeral form.radix t n ∧ form.Fits t n ∧ NoDigit form.radix rest := by
  rw [readNumber]
  constructor
  · intro h
    rcases cut : takeDigits form.radix s with ⟨ds, after⟩
    obtain ⟨t, e, digits, rfl, ends⟩ := takeDigits_eq_iff.1 cut
    rw [cut] at h
    dsimp only at h
    split_ifs at h with admitted
    cases h
    obtain ⟨ne, fits⟩ := NumberForm.admits_iff.1 admitted
    exact ⟨t, e, ⟨ne, digits, rfl⟩, fits, ends⟩
  · rintro ⟨t, rfl, ⟨ne, digits, rfl⟩, fits, ends⟩
    rw [takeDigits_eq_iff.2 ⟨t, rfl, digits, rfl, ends⟩]
    exact if_pos (NumberForm.admits_iff.2 ⟨ne, fits⟩)

/-! ## Addresses of version four -/

theorem fits_octet (o : UInt8) : octetForm.Fits (Nat.toDigits 10 o.toNat) o.toNat := by
  refine ⟨fun most e => ?_, .inr ?_, o.toNat_lt⟩
  · cases e
    exact (Nat.length_toDigits_le_iff (by decide) (by decide)).2
      (Nat.lt_trans o.toNat_lt (by decide))
  · by_cases first : (Number.decimals o.toNat).head? = some 0
    · rw [Number.eq_zero_of_decimals first]
      exact .inr rfl
    · exact .inl first

/-- An octet is read from its decimal digits. -/
theorem readOctet_eq_some_iff {o : UInt8} :
    readOctet s = some (o, rest) ↔ s = Nat.toDigits 10 o.toNat ++ rest ∧ NoDigit 10 rest := by
  show (readNumber octetForm s).bind (fun x => some (UInt8.ofNat x.1, x.2)) = _ ↔ _
  rw [Option.bind_eq_some_iff]
  constructor
  · rintro ⟨⟨n, rest'⟩, read, h⟩
    obtain ⟨t, rfl, numeral, fits, ends⟩ := readNumber_eq_some_iff.1 read
    cases h
    have value : (UInt8.ofNat n).toNat = n := UInt8.toNat_ofNat_of_lt' fits.limit
    refine ⟨?_, ends⟩
    rw [value, ← numeral.eq_toDigits fun zero => ?_]
    refine (fits.zeros.resolve_left Bool.false_ne_true).resolve_left (not_not_intro ?_)
    rw [List.head?_map, zero]
    rfl
  · rintro ⟨rfl, ends⟩
    exact ⟨(o.toNat, rest), readNumber_eq_some_iff.2
      ⟨_, rfl, Number.isNumeral_toDigits _, fits_octet o, ends⟩, by rw [UInt8.ofNat_toNat]⟩

theorem V4.toList_text (v : V4) :
    v.text.toList = Nat.toDigits 10 v.a.toNat ++ '.' :: (Nat.toDigits 10 v.b.toNat ++ '.' ::
      (Nat.toDigits 10 v.c.toNat ++ '.' :: Nat.toDigits 10 v.d.toNat)) := by
  simp [text, decimal]

/-- An address of version four is read from its one spelling. -/
theorem V4.read_eq_some_iff {v : V4} :
    V4.read s = some (v, rest) ↔ s = v.text.toList ++ rest ∧ NoDigit 10 rest := by
  simp only [V4.read, Option.bind_eq_bind, Option.bind_eq_some_iff, Prod.exists,
    afterChar?_eq_some, readOctet_eq_some_iff, Option.pure_def, Option.some.injEq, Prod.mk.injEq]
  constructor
  · rintro ⟨a, _, ⟨rfl, -⟩, _, rfl, b, _, ⟨rfl, -⟩, _, rfl, c, _, ⟨rfl, -⟩, _, rfl, d, _,
      ⟨rfl, ends⟩, rfl, rfl⟩
    exact ⟨by simp [toList_text], ends⟩
  · rintro ⟨rfl, ends⟩
    have dot : ∀ t, NoDigit 10 ('.' :: t) := fun t => noDigit_cons.2 (by decide)
    exact ⟨v.a, _, ⟨by simp [toList_text], dot _⟩, _, rfl, v.b, _, ⟨rfl, dot _⟩, _, rfl, v.c, _,
      ⟨rfl, dot _⟩, _, rfl, v.d, _, ⟨rfl, ends⟩, rfl, rfl⟩

/-- Digits with neither a further digit nor a dot after them begin no address of version four. -/
theorem V4.read_eq_none {t : List Char} (digits : ∀ c ∈ t, digitValue c < 16)
    (ends : NoDigit 16 rest) (noDot : rest.head? ≠ some '.') : V4.read (t ++ rest) = none := by
  rw [Option.eq_none_iff_forall_ne_some]
  rintro ⟨v, after⟩ read
  obtain ⟨e, -⟩ := V4.read_eq_some_iff.1 read
  rw [toList_text, List.append_assoc, List.cons_append] at e
  -- In an address a dot follows the digits at the front.
  have cut := takeDigits_eq_iff.2 ⟨t, rfl, digits, rfl, ends⟩
  have cut' : takeDigits 16 (t ++ rest) = (_, '.' :: _) :=
    takeDigits_eq_iff.2 ⟨_, e, fun c mem => ?_, rfl, noDigit_cons.2 (by decide)⟩
  · rw [cut', Prod.mk.injEq] at cut
    exact noDot (cut.2 ▸ rfl)
  · exact Nat.lt_trans ((Number.isNumeral_toDigits _).digits c mem) (by decide : 10 < 16)

/-! ## Rows of groups -/

theorem fits_group {t : List Char} {g : UInt16} : groupForm.Fits t g.toNat ↔ t.length ≤ 4 :=
  ⟨fun fits => fits.length 4 rfl, fun short => ⟨by rintro _ ⟨⟩; exact short, .inl rfl, g.toNat_lt⟩⟩

theorem readGroup_eq_some_iff {n : Nat} :
    readNumber groupForm s = some (n, rest) ↔
      ∃ t g, s = t ++ rest ∧ IsGroup t g ∧ g.toNat = n ∧ NoDigit 16 rest := by
  rw [readNumber_eq_some_iff]
  constructor
  · rintro ⟨t, e, numeral, fits, ends⟩
    have value : (UInt16.ofNat n).toNat = n := UInt16.toNat_ofNat_of_lt' fits.limit
    rw [← value] at numeral fits
    exact ⟨t, _, e, ⟨numeral, fits_group.1 fits⟩, value, ends⟩
  · rintro ⟨t, g, e, ⟨numeral, short⟩, rfl, ends⟩
    exact ⟨t, e, numeral, fits_group.2 short, ends⟩

/-- A part of a row as it stands there, with a colon in front unless it is the first one. -/
def led (first : Bool) (t : List Char) : List Char := if first then t else ':' :: t

theorem led_append (first : Bool) (t s : List Char) : led first t ++ s = led first (t ++ s) := by
  cases first <;> rfl

theorem readPart_led {α : Type} (first : Bool) (read : Text.Reader α) (s : List Char) :
    readPart first read (led first s) = read s := by
  cases first
  · show (afterChar? ':' (':' :: s)).bind read = read s
    rw [afterChar?_eq_some.2 rfl, Option.bind_some]
  · rfl

theorem readPart_eq_some {α : Type} {first : Bool} {read : Text.Reader α} {x : α × List Char}
    (h : readPart first read s = some x) : ∃ t, s = led first t ∧ read t = some x := by
  cases first with
  | false =>
    obtain ⟨t, e, read⟩ := Option.bind_eq_some_iff.1 h
    exact ⟨t, afterChar?_eq_some.1 e, read⟩
  | true => exact ⟨s, rfl, h⟩

/-- What is read of groups is nothing, or a row that is not too long. -/
theorem readGroups_sound {n : Nat} {first embedded : Bool} {gs : List UInt16}
    (h : readGroups n first s = (gs, embedded, rest)) :
    gs.length ≤ n ∧ ((gs = [] ∧ embedded = false ∧ rest = s) ∨
      ∃ t, s = led first t ++ rest ∧ Row embedded t gs) := by
  induction n generalizing first s gs with
  | zero =>
    cases h
    exact ⟨Nat.le_refl _, .inl ⟨rfl, rfl, rfl⟩⟩
  | succ n ih =>
    rw [readGroups] at h
    rcases quad : (if 0 < n then readPart first V4.read s else none) with _ | ⟨v, after⟩
    · rcases part : readPart first (readNumber groupForm) s with _ | ⟨g, after⟩
      -- neither an address of version four nor a group
      · rw [quad, part] at h
        cases h
        exact ⟨Nat.zero_le _, .inl ⟨rfl, rfl, rfl⟩⟩
      -- a group, and what is read after it
      · rcases more : readGroups n false after with ⟨gs', embedded', rest'⟩
        rw [quad, part] at h
        dsimp only at h
        rw [more] at h
        cases h
        obtain ⟨_, rfl, read⟩ := readPart_eq_some part
        obtain ⟨t, g, rfl, group, rfl, -⟩ := readGroup_eq_some_iff.1 read
        rw [UInt16.ofNat_toNat]
        obtain ⟨le, ⟨rfl, rfl, rfl⟩ | ⟨s, rfl, row⟩⟩ := ih more
        · exact ⟨Nat.succ_le_succ le, .inr ⟨t, (led_append ..).symm, .group group⟩⟩
        · refine ⟨Nat.succ_le_succ le, .inr ⟨t ++ ':' :: s, ?_, .more group row⟩⟩
          rw [led_append first, List.append_assoc]
          rfl
    -- an address of version four, which ends the row
    · rw [quad] at h
      cases h
      split_ifs at quad with two
      obtain ⟨_, rfl, read⟩ := readPart_eq_some quad
      obtain ⟨rfl, -⟩ := V4.read_eq_some_iff.1 read
      exact ⟨Nat.succ_le_succ two, .inr ⟨_, (led_append ..).symm, .quad v⟩⟩

/-- What may stand after a row. -/
inductive Stop : List Char → Prop
  | bracket (s : List Char) : Stop (']' :: s)
  | percent (s : List Char) : Stop ('%' :: s)
  | colons (s : List Char) : Stop (':' :: ':' :: s)

theorem Stop.noDigit (first : Bool) (stop : Stop (led first s)) : NoDigit 16 s := by
  generalize e : led first s = t at stop
  cases first <;> cases stop <;> cases e <;> rintro _ ⟨⟩ <;> decide

theorem Stop.noDot (stop : Stop s) : s.head? ≠ some '.' := by
  cases stop <;> rintro ⟨⟩

theorem V4.digit_of_text (v : V4) : ¬ NoDigit 16 (v.text.toList ++ rest) := by
  rw [toList_text, List.append_assoc]
  exact fun none => (Number.isNumeral_toDigits v.a.toNat).digit (none.mono (by decide))

theorem Row.digit {embedded : Bool} {t : List Char} {gs : List UInt16} (row : Row embedded t gs) :
    ¬ NoDigit 16 (t ++ rest) := by
  cases row with
  | group group => exact group.numeral.digit
  | quad v => exact v.digit_of_text
  | more group _ =>
    rw [List.append_assoc]
    exact group.numeral.digit

/-- No group is read from what stands after a row. -/
theorem readGroups_stop (n : Nat) (first : Bool) (stop : Stop s) :
    readGroups n first s = ([], false, s) := by
  rcases read : readGroups n first s with ⟨gs, embedded, rest⟩
  obtain ⟨-, ⟨rfl, rfl, rfl⟩ | ⟨t, rfl, row⟩⟩ := readGroups_sound read
  · rfl
  · rw [led_append] at stop
    exact absurd (stop.noDigit first) row.digit

theorem readGroups_group {n : Nat} {first : Bool} {t : List Char} {g : UInt16}
    (group : IsGroup t g) (ends : NoDigit 16 rest) (noDot : rest.head? ≠ some '.') :
    readGroups (n + 1) first (led first (t ++ rest)) =
      (g :: (readGroups n false rest).1, (readGroups n false rest).2) := by
  have quad : (if 0 < n then readPart first V4.read (led first (t ++ rest)) else none) = none := by
    rw [readPart_led, V4.read_eq_none group.numeral.digits ends noDot, ite_self]
  have part : readPart first (readNumber groupForm) (led first (t ++ rest)) =
      some (g.toNat, rest) := by
    rw [readPart_led]
    exact readGroup_eq_some_iff.2 ⟨t, g, rfl, group, rfl, ends⟩
  rw [readGroups, quad, part]
  dsimp only
  rw [UInt16.ofNat_toNat]

/-- A row is read as a whole if it is not too long. -/
theorem readGroups_row {n : Nat} {first embedded : Bool} {t : List Char} {gs : List UInt16}
    (row : Row embedded t gs) (short : gs.length ≤ n) (stop : Stop rest) :
    readGroups n first (led first (t ++ rest)) = (gs, embedded, rest) := by
  induction row generalizing n first with
  | group group =>
    obtain ⟨n, rfl⟩ := Nat.exists_eq_add_of_le' short
    rw [List.length_singleton, readGroups_group group (stop.noDigit true) stop.noDot,
      readGroups_stop n false stop]
  | quad v =>
    obtain ⟨n, rfl⟩ := Nat.exists_eq_add_of_le' short
    have read : V4.read (v.text.toList ++ rest) = some (v, rest) :=
      V4.read_eq_some_iff.2 ⟨rfl, (stop.noDigit true).mono (by decide)⟩
    have quad : (if 0 < n + 1 then readPart first V4.read (led first (v.text.toList ++ rest))
        else none) = some (v, rest) := by
      rw [if_pos n.succ_pos, readPart_led, read]
    show readGroups (n + 1 + 1) _ _ = _
    rw [readGroups, quad]
  | @more embedded t s g gs group row ih =>
    obtain ⟨n, rfl⟩ := Nat.exists_eq_add_of_le' short
    show readGroups (n + gs.length + 1) _ _ = _
    have back : readGroups (n + gs.length) false (led false (s ++ rest)) = _ :=
      ih (Nat.le_add_left ..)
    rw [List.append_assoc, List.cons_append, readGroups_group group (noDigit_cons.2 (by decide))
      (by rintro ⟨⟩), show ':' :: (s ++ rest) = led false (s ++ rest) from rfl, back]

/-! ## Hosts -/

theorem V6.ofGroups?_eq_some {gs : List UInt16} {v : V6} :
    V6.ofGroups? gs = some v ↔ v.groups = gs := by
  unfold V6.ofGroups?
  constructor
  · intro h
    split_ifs at h
    cases h
    rfl
  · rintro rfl
    exact dif_pos v.length_groups

/-- What is read as an address of version six spells it. -/
theorem V6.read_sound {v : V6} (h : V6.read s = some (v, rest)) :
    ∃ t, s = t ++ rest ∧ v.IsSpelled t := by
  rcases read : readGroups 8 true s with ⟨front, embedded, after⟩
  obtain ⟨le, found⟩ := readGroups_sound read
  rw [V6.read, read] at h
  dsimp only at h
  split_ifs at h with all quad
  · obtain ⟨v, made, h⟩ := Option.bind_eq_some_iff.1 h
    cases h
    obtain rfl := V6.ofGroups?_eq_some.1 made
    obtain ⟨t, rfl, row⟩ := found.resolve_left fun none => by simp [none.1] at all
    exact ⟨t, rfl, .full row⟩
  · simp only [Option.bind_eq_bind, Option.bind_eq_some_iff, afterChar?_eq_some] at h
    obtain ⟨_, rfl, s, rfl, v, made, h⟩ := h
    rcases read' : readGroups (7 - front.length) true s with ⟨back, embedded', rest'⟩
    obtain ⟨le', found'⟩ := readGroups_sound read'
    rw [read'] at made h
    cases h
    obtain rfl : embedded = false := Bool.eq_false_iff.2 quad
    have some : 8 - front.length - back.length = 7 - front.length - back.length + 1 := by omega
    rw [some, V6.ofGroups?_eq_some] at made
    have side : ∃ t, s = t ++ rest' ∧ Side embedded' t back := by
      obtain ⟨rfl, rfl, rfl⟩ | ⟨t, rfl, row⟩ := found'
      · exact ⟨[], rfl, .nothing⟩
      · exact ⟨t, rfl, .row row⟩
    obtain ⟨s, rfl, side⟩ := side
    obtain ⟨rfl, -, rfl⟩ | ⟨t, rfl, row⟩ := found
    · exact ⟨':' :: ':' :: s, rfl, .short .nothing side made⟩
    · exact ⟨t ++ ':' :: ':' :: s, by simp [led], .short (.row row) side made⟩

theorem Side.read {n : Nat} {embedded : Bool} {t : List Char} {gs : List UInt16}
    (side : Side embedded t gs) (short : gs.length ≤ n) (stop : Stop rest) :
    readGroups n true (t ++ rest) = (gs, embedded, rest) := by
  cases side with
  | nothing => exact readGroups_stop n true stop
  | row row => exact readGroups_row row short stop

/-- An address of version six is read from each of its spellings. -/
theorem V6.read_complete {v : V6} {t : List Char} (h : v.IsSpelled t) (stop : Stop rest) :
    V6.read (t ++ rest) = some (v, rest) := by
  have made := V6.ofGroups?_eq_some.2 (rfl : v.groups = _)
  cases h with
  | full row =>
    rw [V6.read, (Side.row row).read (Nat.le_of_eq v.length_groups) stop]
    dsimp only
    rw [if_pos v.length_groups, made]
    rfl
  | @short embedded t s front back zeros side side' groups =>
    have length := v.length_groups
    rw [groups] at made length
    simp only [List.length_append, List.length_replicate] at length
    rw [List.append_assoc, List.cons_append, List.cons_append, V6.read,
      side.read (by omega) (.colons _)]
    dsimp only
    rw [if_neg (by omega), if_neg Bool.false_ne_true]
    rw [afterChar?_eq_some.2 rfl, Option.bind_eq_bind, Option.bind_some, afterChar?_eq_some.2 rfl,
      Option.bind_eq_bind, Option.bind_some, side'.read (by omega) stop]
    dsimp only
    rw [show 8 - front.length - back.length = zeros + 1 by omega, made]
    rfl

/-- The number of an interface is read up to the closing bracket. -/
theorem readScope_eq_iff {n : Nat} :
    readScope s = (n, ']' :: rest) ↔ (s = ']' :: rest ∧ n = 0) ∨
      ∃ t, s = '%' :: (t ++ ']' :: rest) ∧ IsNumeral 10 t n ∧ n < UInt32.size := by
  rw [readScope]
  constructor
  · intro h
    rcases read : (afterChar? '%' s).bind (readNumber scopeForm) with _ | ⟨n', rest'⟩
    · rw [read] at h
      cases h
      exact .inl ⟨rfl, rfl⟩
    · rw [read] at h
      cases h
      obtain ⟨_, after, read⟩ := Option.bind_eq_some_iff.1 read
      obtain ⟨t, rfl, numeral, fits, -⟩ := readNumber_eq_some_iff.1 read
      exact .inr ⟨t, afterChar?_eq_some.1 after, numeral, fits.limit⟩
  · rintro (⟨rfl, rfl⟩ | ⟨t, rfl, numeral, lt⟩)
    · rfl
    · have ends : NoDigit 10 (']' :: rest) := noDigit_cons.2 (by decide)
      rw [afterChar?_eq_some.2 rfl, Option.bind_some, readNumber_eq_some_iff.2
        ⟨t, rfl, numeral, scopeForm.fits_of_lt rfl rfl lt, ends⟩, Option.getD_some]

/-- What is read as a host spells it. -/
theorem Host.read_sound {host : Host} (h : Host.read s = some (host, rest)) :
    ∃ t, s = t ++ rest ∧ host.IsSpelled t := by
  rw [Host.read] at h
  rcases quad : V4.read s with _ | ⟨v, after⟩
  · rw [quad] at h
    simp only [Option.bind_eq_bind, Option.bind_eq_some_iff, afterChar?_eq_some, Prod.exists] at h
    obtain ⟨_, rfl, v, after, read, _, closed, h⟩ := h
    rcases scope : readScope after with ⟨n, closing⟩
    rw [scope] at closed h
    dsimp only at closed h
    subst closed
    cases h
    obtain ⟨t, rfl, spelled⟩ := V6.read_sound read
    obtain ⟨rfl, rfl⟩ | ⟨s, rfl, numeral, lt⟩ := readScope_eq_iff.1 scope
    · exact ⟨'[' :: (t ++ [']']), by simp, .v6 spelled⟩
    · rw [← UInt32.toNat_ofNat_of_lt' lt] at numeral
      exact ⟨'[' :: (t ++ '%' :: (s ++ [']'])), by simp, .interface spelled numeral⟩
  · rw [quad] at h
    cases h
    exact ⟨_, (V4.read_eq_some_iff.1 quad).1, .v4 v⟩

/-- A host is read from each of its spellings. -/
theorem Host.read_complete {host : Host} {t : List Char} (h : host.IsSpelled t)
    (ends : NoDigit 10 rest) : Host.read (t ++ rest) = some (host, rest) := by
  have noQuad : ∀ s, V4.read ('[' :: s) = none := fun s =>
    V4.read_eq_none (t := []) nofun (noDigit_cons.2 (by decide)) (by rintro ⟨⟩)
  -- the part in brackets is the same with and without an interface
  have bracketed : ∀ {v : V6} {t s : List Char} {n : Nat}, v.IsSpelled t → Stop s →
      readScope s = (n, ']' :: rest) →
      Host.read ('[' :: (t ++ s)) = some (.v6 v (UInt32.ofNat n), rest) := by
    intro v t s n spelled stop scope
    rw [Host.read, noQuad]
    show (V6.read _).bind _ = _
    rw [V6.read_complete spelled stop, Option.bind_some]
    dsimp only
    rw [scope]
    rfl
  cases h with
  | v4 v => rw [Host.read, V4.read_eq_some_iff.2 ⟨rfl, ends⟩]
  | v6 spelled =>
    rw [List.cons_append, List.append_assoc]
    exact bracketed spelled (.bracket rest) (readScope_eq_iff.2 (.inl ⟨rfl, rfl⟩))
  | @interface v t s scope spelled numeral =>
    rw [← UInt32.ofNat_toNat (x := scope)]
    have read := bracketed spelled (.percent (s ++ ']' :: rest))
      (readScope_eq_iff.2 (.inr ⟨s, rfl, numeral, scope.toNat_lt⟩))
    simpa using read

end ClaExemption.Address
