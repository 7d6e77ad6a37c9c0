import ClaExemption.Regex.Basic
import Mathlib.Data.Finset.Card
import Mathlib.Data.Finset.Filter

/-!
# A search finds what an expression covers

`Expr.isMatch_iff`: searching a text succeeds exactly when the expression covers
some stretch of it in the sense of `Expr.Spans`.

* `Follows size R f`: on sets of the first `size` positions, `f` takes one step
  of the relation `R`. Applying `f` so many times takes so many steps
  (`Follows.iterate`).
* `Frontier`: what the rounds of `reach` keep (`Frontier.round`), so that they
  find the ends of at most so many steps (`Frontier.testBit_reach`). With as
  many rounds as there are positions these are the ends of any number of steps
  (`testBit_reach_size`), since a round that is not the last finds a position
  that was missing.
* `Expr.ends_follows`: by induction on the expression, its ends follow its
  stretches; `Follows.testBit_repetition` is the case of a repetition.
-/

namespace ClaExemption

namespace Regex

/-! ## Sets of positions -/

/-- A set holds positions below `size` only. -/
def Within (size s : Nat) : Prop :=
  ∀ i, s.testBit i = true → i < size

/-- The positions of a list of answers are those of its true entries. -/
theorem testBit_positions (answers : List Bool) (i : Nat) :
    (positions answers).testBit i = true ↔ answers[i]? = some true := by
  induction answers generalizing i with
  | nil => simp [positions]
  | cons b bs ih =>
    cases i with
    | zero => cases b <;> simp [positions]
    | succ i =>
      have half : (2 * positions bs + b.toNat) / 2 = positions bs := by
        have := b.toNat_lt
        omega
      rw [positions, Nat.testBit_add_one, half, ih, List.getElem?_cons_succ]

/-- What lies on the two sides of a position. -/
theorem getElem?_neighbours (before : Option Char) (text : List Char) {i : Nat}
    (bound : i ≤ text.length) :
    (neighbours before text)[i]? = some (if i = 0 then before else text[i - 1]?, text[i]?) := by
  induction text generalizing before i with
  | nil => simp [neighbours, Nat.le_zero.mp bound]
  | cons c rest ih =>
    cases i with
    | zero => rfl
    | succ i =>
      rw [neighbours, List.getElem?_cons_succ, ih (some c) (Nat.le_of_succ_le_succ bound)]
      cases i <;> simp

theorem length_neighbours (before : Option Char) (text : List Char) :
    (neighbours before text).length = text.length + 1 := by
  induction text generalizing before with
  | nil => rfl
  | cons c rest ih => simp [neighbours, ih]

/-! ## Functions of sets against relations on positions -/

/-- So many steps of a relation, one after the other. -/
def Copies (R : Nat → Nat → Prop) : Nat → Nat → Nat → Prop
  | 0, i, j => i = j
  | n + 1, i, j => ∃ k, R i k ∧ Copies R n k j

variable {R : Nat → Nat → Prop} {f : Nat → Nat} {size : Nat}

theorem copies_add {m n i j : Nat} :
    Copies R (m + n) i j ↔ ∃ k, Copies R m i k ∧ Copies R n k j := by
  induction m generalizing i with
  | zero => simp [Copies]
  | succ m ih =>
    rw [Nat.succ_add]
    simp only [Copies, ih]
    constructor
    · rintro ⟨l, step, k, before, after⟩
      exact ⟨k, ⟨l, step, before⟩, after⟩
    · rintro ⟨k, ⟨l, step, before⟩, after⟩
      exact ⟨l, step, k, before, after⟩

/-- On sets of the first `size` positions, `f` takes one step of the relation `R`. -/
structure Follows (size : Nat) (R : Nat → Nat → Prop) (f : Nat → Nat) : Prop where
  within : ∀ {i j}, i < size → R i j → j < size
  testBit_iff : ∀ {s}, Within size s → ∀ j,
    (f s).testBit j = true ↔ ∃ i, s.testBit i = true ∧ R i j

theorem Follows.within_apply (h : Follows size R f) {s : Nat} (hs : Within size s) :
    Within size (f s) := by
  intro j hj
  obtain ⟨i, hi, step⟩ := (h.testBit_iff hs j).mp hj
  exact h.within (hs i hi) step

theorem iterate_of_fixed {s : Nat} (fixed : f s = s) (n : Nat) : iterate f n s = s := by
  cases n with
  | zero => rfl
  | succ n => simp [iterate, fixed]

/-- Stopping early changes nothing. -/
theorem iterate_succ (f : Nat → Nat) (n s : Nat) : iterate f (n + 1) s = iterate f n (f s) := by
  by_cases fixed : f s = s
  · simp [iterate, fixed, iterate_of_fixed]
  · simp [iterate, fixed]

/-- Applying a function so many times takes so many steps. -/
theorem Follows.iterate (h : Follows size R f) (n : Nat) :
    Follows size (Copies R n) (iterate f n) := by
  induction n with
  | zero => exact ⟨fun hi e => e ▸ hi, fun hs j => by simp [Regex.iterate, Copies]⟩
  | succ n ih =>
    refine ⟨fun hi ⟨k, step, rest⟩ => ih.within (h.within hi step) rest, fun {s} hs j => ?_⟩
    rw [iterate_succ, ih.testBit_iff (h.within_apply hs)]
    simp only [h.testBit_iff hs, Copies]
    constructor
    · rintro ⟨k, ⟨i, hi, step⟩, rest⟩
      exact ⟨i, hi, k, step, rest⟩
    · rintro ⟨i, hi, k, step, rest⟩
      exact ⟨k, ⟨i, hi, step⟩, rest⟩

/-! ## Any number of steps -/

/-- What `reach` keeps from round to round: only the positions found last can lead to a position
that has not been found. -/
structure Frontier (size : Nat) (R : Nat → Nat → Prop) (reached fresh : Nat) : Prop where
  within : Within size reached
  sub : ∀ {i}, fresh.testBit i = true → reached.testBit i = true
  settled : ∀ {i j}, reached.testBit i = true → R i j →
    reached.testBit j = true ∨ ∃ k, fresh.testBit k = true ∧ R k j

variable {reached fresh : Nat}

theorem Frontier.start {s : Nat} (hs : Within size s) : Frontier size R s s :=
  ⟨hs, id, fun {i _} hi step => .inr ⟨i, hi, step⟩⟩

theorem Frontier.within_fresh (F : Frontier size R reached fresh) : Within size fresh :=
  fun i hi => F.within i (F.sub hi)

/-- The positions that a round of `reach` finds. -/
abbrev next (f : Nat → Nat) (reached fresh : Nat) : Nat := (f fresh ||| reached) ^^^ reached

/-- The positions that a round finds are the ends of steps from those found last. -/
theorem Frontier.testBit_next (F : Frontier size R reached fresh) (h : Follows size R f) (j : Nat) :
    (next f reached fresh).testBit j = true ↔
      reached.testBit j = false ∧ ∃ i, fresh.testBit i = true ∧ R i j := by
  rw [← h.testBit_iff F.within_fresh]
  simp only [next, Nat.testBit_xor, Nat.testBit_or]
  cases reached.testBit j <;> simp

/-- After a round, the positions found are those found before and the ends of steps from them. -/
theorem Frontier.testBit_grown (F : Frontier size R reached fresh) (h : Follows size R f)
    (j : Nat) :
    (reached ||| next f reached fresh).testBit j = true ↔
      reached.testBit j = true ∨ ∃ i, reached.testBit i = true ∧ R i j := by
  rw [Nat.testBit_or, Bool.or_eq_true, F.testBit_next h]
  constructor
  · rintro (found | ⟨-, i, hi, step⟩)
    · exact .inl found
    · exact .inr ⟨i, F.sub hi, step⟩
  · rintro (found | ⟨i, hi, step⟩)
    · exact .inl found
    · cases known : reached.testBit j with
      | true => exact .inl rfl
      | false => exact .inr ⟨rfl, (F.settled hi step).resolve_left (by simp [known])⟩

/-- A round keeps the invariant. -/
theorem Frontier.round (F : Frontier size R reached fresh) (h : Follows size R f) :
    Frontier size R (reached ||| next f reached fresh) (next f reached fresh) where
  within j hj := by
    rcases (F.testBit_grown h j).mp hj with found | ⟨i, hi, step⟩
    · exact F.within j found
    · exact h.within (F.within i hi) step
  sub hi := by rw [Nat.testBit_or, hi, Bool.or_true]
  settled {i j} hi step := by
    rw [Nat.testBit_or, Bool.or_eq_true] at hi
    rcases hi with found | new
    · exact .inl ((F.testBit_grown h j).mpr (.inr ⟨i, found, step⟩))
    · exact .inr ⟨i, new, step⟩

/-- Where a round finds nothing, every step from a position found ends at one. -/
theorem Frontier.closed (F : Frontier size R reached fresh) (h : Follows size R f)
    (stop : next f reached fresh = 0) {i j : Nat} (hi : reached.testBit i = true) (step : R i j) :
    reached.testBit j = true := by
  have grown := (F.testBit_grown h j).mpr (.inr ⟨i, hi, step⟩)
  rwa [stop, Nat.or_zero] at grown

/-- A set that is closed under steps holds the ends of any number of them. -/
theorem copies_closed {s : Nat}
    (closed : ∀ {i j}, s.testBit i = true → R i j → s.testBit j = true) {n i j : Nat}
    (hi : s.testBit i = true) (steps : Copies R n i j) : s.testBit j = true := by
  induction n generalizing i with
  | zero => exact steps ▸ hi
  | succ n ih =>
    obtain ⟨k, step, rest⟩ := steps
    exact ih (closed hi step) rest

/-- So many rounds find the ends of at most so many steps. -/
theorem Frontier.testBit_reach (F : Frontier size R reached fresh) (h : Follows size R f)
    (n j : Nat) :
    (reach f n reached fresh).testBit j = true ↔
      ∃ k ≤ n, ∃ i, reached.testBit i = true ∧ Copies R k i j := by
  induction n generalizing reached fresh with
  | zero => simp [reach, Copies]
  | succ n ih =>
    rw [reach]
    split
    case isTrue stop =>
      constructor
      · exact fun hj => ⟨0, Nat.zero_le _, j, hj, rfl⟩
      · rintro ⟨k, -, i, hi, steps⟩
        exact copies_closed (F.closed h stop) hi steps
    case isFalse =>
      -- The first of the steps is the one that this round takes.
      rw [ih (F.round h)]
      simp only [F.testBit_grown h]
      constructor
      · rintro ⟨k, hk, i, found | ⟨l, hl, step⟩, steps⟩
        · exact ⟨k, Nat.le_succ_of_le hk, i, found, steps⟩
        · exact ⟨k + 1, Nat.succ_le_succ hk, l, hl, i, step, steps⟩
      · rintro ⟨k, hk, i, hi, steps⟩
        cases k with
        | zero => exact ⟨0, Nat.zero_le n, i, .inl hi, steps⟩
        | succ k =>
          obtain ⟨l, step, rest⟩ := steps
          exact ⟨k, Nat.le_of_succ_le_succ hk, l, .inr ⟨i, hi, step⟩, rest⟩

/-- The positions that a set does not hold. -/
def missing (size s : Nat) : Finset Nat :=
  (Finset.range size).filter fun i => s.testBit i = false

theorem card_missing_le (size s : Nat) : (missing size s).card ≤ size :=
  (Finset.card_filter_le _ _).trans (Finset.card_range size).le

/-- A round that finds something leaves fewer positions missing. -/
theorem Frontier.card_missing_lt (F : Frontier size R reached fresh) (h : Follows size R f)
    (found : next f reached fresh ≠ 0) :
    (missing size (reached ||| next f reached fresh)).card < (missing size reached).card := by
  obtain ⟨k, hk⟩ := Nat.exists_testBit_of_ne_zero found
  have lost : reached.testBit k = false := ((F.testBit_next h k).mp hk).1
  have inside : k < size := (F.round h).within_fresh k hk
  refine Finset.card_lt_card ((Finset.ssubset_iff_of_subset fun l hl => ?_).mpr ⟨k, ?_, ?_⟩)
  · simp only [missing, Finset.mem_filter, Nat.testBit_or, Bool.or_eq_false_iff] at hl ⊢
    exact ⟨hl.1, hl.2.1⟩
  · simp [missing, inside, lost]
  · simp only [missing, Finset.mem_filter, Nat.testBit_or, hk, Bool.or_true]
    simp

/-- With a round for every position that is missing, the positions found are closed under
steps. -/
theorem Frontier.reach_closed (F : Frontier size R reached fresh) (h : Follows size R f) {n : Nat}
    (enough : (missing size reached).card ≤ n) {i j : Nat}
    (hi : (reach f n reached fresh).testBit i = true) (step : R i j) :
    (reach f n reached fresh).testBit j = true := by
  induction n generalizing reached fresh with
  | zero =>
    -- No position is missing, not even the end of the step.
    have full : missing size reached = ∅ := Finset.card_eq_zero.mp (Nat.le_zero.mp enough)
    rw [reach] at hi ⊢
    by_contra absent
    have : j ∈ missing size reached :=
      Finset.mem_filter.mpr ⟨Finset.mem_range.mpr (h.within (F.within i hi) step),
        Bool.not_eq_true _ ▸ absent⟩
    simp [full] at this
  | succ n ih =>
    rw [reach] at hi ⊢
    split at hi
    case isTrue stop =>
      rw [if_pos stop]
      exact F.closed h stop hi step
    case isFalse found =>
      rw [if_neg found]
      have fewer := (F.card_missing_lt h found).trans_le enough
      exact ih (F.round h) (Nat.le_of_lt_succ fewer) hi

/-- With as many rounds as there are positions, `reach` finds the ends of any number of steps. -/
theorem testBit_reach_size (h : Follows size R f) {s : Nat} (hs : Within size s) (j : Nat) :
    (reach f size s s).testBit j = true ↔ ∃ k i, s.testBit i = true ∧ Copies R k i j := by
  have F : Frontier size R s s := .start hs
  constructor
  · intro hj
    obtain ⟨k, -, i, hi, steps⟩ := (F.testBit_reach h size j).mp hj
    exact ⟨k, i, hi, steps⟩
  · rintro ⟨k, i, hi, steps⟩
    have start : (reach f size s s).testBit i = true :=
      (F.testBit_reach h size i).mpr ⟨0, Nat.zero_le _, i, hi, rfl⟩
    exact copies_closed (F.reach_closed h (card_missing_le size s)) start steps

/-- With a limit on the rounds, or with as many as there are positions, `reach` finds the ends of any
number of steps within the limit. -/
theorem testBit_reach_limit (h : Follows size R f) {s : Nat} (hs : Within size s)
    (limit : Option Nat) (j : Nat) :
    (reach f (limit.getD size) s s).testBit j = true ↔
      ∃ k, (∀ m, limit = some m → k ≤ m) ∧ ∃ i, s.testBit i = true ∧ Copies R k i j := by
  cases limit with
  | none => simp [testBit_reach_size h hs]
  | some m => simp [(Frontier.start hs).testBit_reach h]

/-- A repetition may take so many copies. -/
def MayTake (least : Nat) (most : Option Nat) (n : Nat) : Prop :=
  least ≤ n ∧ ∀ m, most = some m → n ≤ max least m

/-- The copies that must be there are taken first, and then those that the limit leaves room for. -/
theorem mayTake_add {least k : Nat} {most : Option Nat} :
    MayTake least most (least + k) ↔ ∀ m, most.map (· - least) = some m → k ≤ m := by
  cases most with
  | none => simp [MayTake]
  | some m =>
    simp only [MayTake, Option.map_some, Option.some.injEq, forall_eq']
    omega

/-- The ends of a repetition follow the numbers of copies that it may take. -/
theorem Follows.testBit_repetition (h : Follows size R f) {s : Nat} (hs : Within size s)
    (least : Nat) (most : Option Nat) (j : Nat) :
    (reach f ((most.map (· - least)).getD size) (Regex.iterate f least s)
        (Regex.iterate f least s)).testBit j = true ↔
      ∃ i, s.testBit i = true ∧ ∃ n, MayTake least most n ∧ Copies R n i j := by
  have must : Follows size (Copies R least) (Regex.iterate f least) := h.iterate least
  rw [testBit_reach_limit h (must.within_apply hs)]
  simp only [must.testBit_iff hs, ← mayTake_add]
  constructor
  · rintro ⟨k, may, l, ⟨i, hi, before⟩, after⟩
    exact ⟨i, hi, least + k, may, copies_add.mpr ⟨l, before, after⟩⟩
  · rintro ⟨i, hi, n, may, steps⟩
    obtain ⟨k, rfl⟩ := Nat.exists_eq_add_of_le may.1
    obtain ⟨l, before, after⟩ := copies_add.mp steps
    exact ⟨k, may, l, ⟨i, hi, before⟩, after⟩

/-! ## Expressions -/

section
variable {text : List Char}

/-- A stretch lies within the text. -/
theorem Expr.Spans.bounds {e : Expr CharSet Look} {i j : Nat} (h : e.Spans text i j) :
    i ≤ j ∧ j ≤ text.length := by
  induction h with
  | empty bound | look bound | done bound => exact ⟨Nat.le_refl _, bound⟩
  | chars at_i => exact ⟨Nat.le_succ _, (List.getElem?_eq_some_iff.mp at_i).1⟩
  | seq _ _ first second => exact ⟨first.1.trans second.1, second.2⟩
  | more _ _ _ one rest => exact ⟨one.1.trans rest.1, rest.2⟩
  | left _ ih | right _ ih | capture _ ih => exact ih

/-- A repetition covers a number of copies that it may take. -/
theorem Expr.spans_repetition_iff {least : Nat} {most : Option Nat} {body : Expr CharSet Look}
    {i j : Nat} :
    (Expr.repetition least most body).Spans text i j ↔
      i ≤ text.length ∧ ∃ n, MayTake least most n ∧ Copies (body.Spans text) n i j := by
  constructor
  · intro h
    generalize he : Expr.repetition least most body = e at h
    induction h generalizing least most with
    | done bound =>
      cases he
      exact ⟨bound, 0, ⟨Nat.le_refl 0, fun _ _ => Nat.zero_le _⟩, rfl⟩
    | more room one _ _ rest =>
      cases he
      obtain ⟨-, n, ⟨enough, limit⟩, steps⟩ := rest rfl
      refine ⟨one.bounds.1.trans one.bounds.2, n + 1, ⟨by omega, ?_⟩, _, one, steps⟩
      rintro m rfl
      have := limit (m - 1) rfl
      simp only [ne_eq, Option.some.injEq] at room
      omega
    | empty | chars | look | seq | left | right | capture => cases he
  · rintro ⟨bound, n, ⟨enough, limit⟩, steps⟩
    induction n generalizing least most i with
    | zero =>
      obtain rfl := Nat.le_zero.mp enough
      exact steps ▸ .done bound
    | succ n ih =>
      obtain ⟨k, one, rest⟩ := steps
      refine .more ?_ one (ih one.bounds.2 rest (by omega) fun m hm => ?_)
      · by_contra full
        simp only [ne_eq, not_or, not_not] at full
        have := limit 0 full.2
        omega
      · obtain ⟨m, rfl, rfl⟩ := Option.map_eq_some_iff.mp hm
        have := limit m rfl
        omega

/-- The ends of an expression follow its stretches, where the sets of places stand for the places
at which a character of a set stands or a condition holds. -/
theorem Expr.ends_follows {chars : CharSet → Nat} {looks : Look → Nat}
    (hchars : ∀ set i, (chars set).testBit i = true ↔
      ∃ c, text[i]? = some c ∧ set.mem c.toNat = true)
    (hlooks : ∀ l i, (looks l).testBit i = true ↔
      i ≤ text.length ∧ l.holds (if i = 0 then none else text[i - 1]?) text[i]? = true)
    (e : Expr CharSet Look) :
    Follows (text.length + 1) (e.Spans text) ((e.map chars looks).ends (text.length + 1)) := by
  have within {e : Expr CharSet Look} {i j : Nat} (_ : i < text.length + 1)
      (h : e.Spans text i j) : j < text.length + 1 := Nat.lt_succ_of_le h.bounds.2
  induction e with
  | empty =>
    refine ⟨within, fun {s} hs j => ?_⟩
    constructor
    · exact fun hj => ⟨j, hj, .empty (Nat.le_of_lt_succ (hs j hj))⟩
    · rintro ⟨i, hi, span⟩
      cases span with
      | empty => exact hi
  | chars set =>
    refine ⟨within, fun {s} _ j => ?_⟩
    simp only [Expr.map, Expr.ends, Nat.testBit_shiftLeft, Nat.testBit_and, Bool.and_eq_true,
      decide_eq_true_eq, hchars]
    constructor
    · rintro ⟨positive, hi, c, at_i, mem⟩
      refine ⟨j - 1, hi, ?_⟩
      have span : (Expr.chars set).Spans text (j - 1) (j - 1 + 1) := .chars at_i mem
      rwa [Nat.sub_add_cancel positive] at span
    · rintro ⟨i, hi, span⟩
      cases span with
      | chars at_i mem => exact ⟨Nat.le_add_left .., hi, _, at_i, mem⟩
  | look l =>
    refine ⟨within, fun {s} _ j => ?_⟩
    simp only [Expr.map, Expr.ends, Nat.testBit_and, Bool.and_eq_true, hlooks]
    constructor
    · rintro ⟨hj, bound, holds⟩
      exact ⟨j, hj, .look bound holds⟩
    · rintro ⟨i, hi, span⟩
      cases span with
      | look bound holds => exact ⟨hi, bound, holds⟩
  | seq a b iha ihb =>
    refine ⟨within, fun {s} hs j => ?_⟩
    simp only [Expr.map, Expr.ends, ihb.testBit_iff (iha.within_apply hs), iha.testBit_iff hs]
    constructor
    · rintro ⟨k, ⟨i, hi, first⟩, second⟩
      exact ⟨i, hi, .seq first second⟩
    · rintro ⟨i, hi, span⟩
      cases span with
      | seq first second => exact ⟨_, ⟨i, hi, first⟩, second⟩
  | alt a b iha ihb =>
    refine ⟨within, fun {s} hs j => ?_⟩
    simp only [Expr.map, Expr.ends, Nat.testBit_or, Bool.or_eq_true, ihb.testBit_iff hs,
      iha.testBit_iff hs]
    constructor
    · rintro (⟨i, hi, h⟩ | ⟨i, hi, h⟩)
      · exact ⟨i, hi, .left h⟩
      · exact ⟨i, hi, .right h⟩
    · rintro ⟨i, hi, span⟩
      cases span with
      | left h => exact .inl ⟨i, hi, h⟩
      | right h => exact .inr ⟨i, hi, h⟩
  | repetition least most body ih =>
    refine ⟨within, fun {s} hs j => ?_⟩
    rw [Expr.map, Expr.ends, ih.testBit_repetition hs]
    simp only [Expr.spans_repetition_iff]
    constructor
    · rintro ⟨i, hi, copies⟩
      exact ⟨i, hi, Nat.le_of_lt_succ (hs i hi), copies⟩
    · rintro ⟨i, hi, -, copies⟩
      exact ⟨i, hi, copies⟩
  | capture index body ih =>
    refine ⟨within, fun {s} hs j => ?_⟩
    rw [Expr.map, Expr.ends, ih.testBit_iff hs]
    constructor
    · rintro ⟨i, hi, h⟩
      exact ⟨i, hi, .capture h⟩
    · rintro ⟨i, hi, span⟩
      cases span with
      | capture h => exact ⟨i, hi, h⟩

/-- The places at which a character of a set stands. -/
theorem testBit_chars (set : CharSet) (i : Nat) :
    (positions (text.map fun c => set.mem c.toNat)).testBit i = true ↔
      ∃ c, text[i]? = some c ∧ set.mem c.toNat = true := by
  rw [testBit_positions, List.getElem?_map, Option.map_eq_some_iff]

/-- The positions that satisfy a condition. -/
theorem testBit_looks (l : Look) (i : Nat) :
    (positions ((neighbours none text).map fun p => l.holds p.1 p.2)).testBit i = true ↔
      i ≤ text.length ∧ l.holds (if i = 0 then none else text[i - 1]?) text[i]? = true := by
  rw [testBit_positions, List.getElem?_map]
  by_cases bound : i ≤ text.length
  · simp [getElem?_neighbours none text bound, bound]
  · have outside : (neighbours none text)[i]? = none :=
      List.getElem?_eq_none (by rw [length_neighbours]; omega)
    simp [outside, bound]

/-- A search succeeds exactly when the expression covers some stretch of the text. -/
theorem Expr.isMatch_iff {e : Expr CharSet Look} :
    e.isMatch text = true ↔ ∃ i j, e.Spans text i j := by
  have all (i : Nat) : ((1 <<< (text.length + 1)) - 1).testBit i = true ↔ i ≤ text.length := by
    rw [Nat.one_shiftLeft, Nat.testBit_two_pow_sub_one, decide_eq_true_iff, Nat.lt_succ_iff]
  have within : Within (text.length + 1) ((1 <<< (text.length + 1)) - 1) :=
    fun i hi => Nat.lt_succ_of_le ((all i).mp hi)
  have follows : Follows (text.length + 1) (e.Spans text) _ :=
    e.ends_follows testBit_chars testBit_looks
  rw [Expr.isMatch, length_neighbours, bne_iff_ne]
  constructor
  · intro found
    obtain ⟨j, hj⟩ := Nat.exists_testBit_of_ne_zero found
    obtain ⟨i, -, span⟩ := (follows.testBit_iff within j).mp hj
    exact ⟨i, j, span⟩
  · rintro ⟨i, j, span⟩
    have hi := (all i).mpr (span.bounds.1.trans span.bounds.2)
    have hj := (follows.testBit_iff within j).mpr ⟨i, hi, span⟩
    exact ((Nat.two_pow_pos j).trans_le (Nat.ge_two_pow_of_testBit hj)).ne'

end

end Regex

/-- A regular expression is found in a text exactly when what it asks for covers some stretch of
it. -/
theorem Regex.isMatch_iff {r : Regex} {text : String} :
    r.isMatch text = true ↔ ∃ i j, r.expr.Spans text.toList i j :=
  Regex.Expr.isMatch_iff

end ClaExemption
