import ClaExemption.Proofs.Keyed.Basic
import ClaExemption.Timings
import Mathlib.Data.List.Induction

/-!
# What a run of steps leaves timed

The steps of a run start, clear and evict the timings of many requests. Each
step changes the entry of one id as `Step.entryAfter` says (`exists_step?`), and
so does a run, step by step (`exists_run?`). Evictions take away only what is
not shown any more, so what is shown of an id depends on the last step on that
id alone (`filter_foldl_entryAfter`). `run_shows_last_start` puts these together.
-/

namespace ClaExemption.Timings

open Keyed

/-- A step that changes which requests are timed. -/
inductive Step where
  | start (id method : String) (now : Instant)
  | clear (id : String) (now : Instant)
  | evict (now : Instant)
deriving DecidableEq

/-- Whether a step starts or clears the timing of an id. -/
def Step.isOn (id : String) : Step → Bool
  | .start id' _ _ => id' == id
  | .clear id' _ => id' == id
  | .evict _ => false

/-- The last step that starts or clears the timing of an id. -/
def lastOn (id : String) (steps : List Step) : Option Step := lastOf (·.isOn id) steps

/-- The timings after a step; none if the clock cannot show when one expires. -/
def step? (t : Timings) : Step → Option Timings
  | .start id method now => t.start? id method now
  | .clear id now => some (t.clear id now).2
  | .evict now => some (t.evict now).2

/-- The timings after a run of steps. -/
def run? (t : Timings) (steps : List Step) : Option Timings := steps.foldlM step? t

/-- The clock can show when each timing expires that a run starts. -/
def Fits (lifetime : Nat) (steps : List Step) : Prop :=
  ∀ id method now, .start id method now ∈ steps → now + lifetime < clockLimit

/-- A run has no eviction after a time: none if the steps come in the order of their times and the
last of them is not after it. -/
def NoneLate (now : Instant) (steps : List Step) : Prop :=
  ∀ time, .evict time ∈ steps → time ≤ now

/-- The entry of an id, whether it has expired or not. -/
def held? (t : Timings) (id : String) : Option InFlight := under t.entries id

variable {t : Timings} {id : String} {now : Instant} {lifetime : Nat}

/-! ## The entry of one id -/

/-- What a step makes of the entry of an id. -/
def Step.entryAfter (lifetime : Nat) (id : String) (entry : Option InFlight) :
    Step → Option InFlight
  | .start id' method now => if id' = id then some ⟨method, now, now + lifetime⟩ else entry
  | .clear id' _ => if id' = id then none else entry
  | .evict now => entry.filter fun e => now < e.expires

theorem held?_without (distinct : Distinct t.entries) (gone id : String) :
    (t.without gone).held? id = if gone = id then none else t.held? id := by
  have left : (t.without gone).held? id = (t.held? id).filter fun _ => id != gone :=
    under_filter distinct _ id
  rw [left]
  cases t.held? id with
  | none => exact (ite_self none).symm
  | some e =>
    by_cases same : gone = id
    · rw [if_pos same, Option.filter_some_neg (by simp [same])]
    · rw [if_neg same, Option.filter_some_pos (by simp [Ne.symm same])]

/-- A step that the clock can show does to each entry what it is to do. -/
theorem exists_step? (distinct : Distinct t.entries) (step : Step)
    (fits : ∀ id method now, step = .start id method now → now + t.lifetime < clockLimit) :
    ∃ t', t.step? step = some t' ∧ t'.lifetime = t.lifetime ∧ Distinct t'.entries ∧
      ∀ id, t'.held? id = step.entryAfter t.lifetime id (t.held? id) := by
  cases step with
  | start started method now =>
    have shown : now + t.lifetime < clockLimit := fits started method now rfl
    refine ⟨_, if_pos shown, rfl, distinct.replace _ _, fun id => ?_⟩
    have others : under (t.without started).entries id = _ := held?_without distinct started id
    show under ((started, _) :: (t.without started).entries) id = _
    by_cases same : started = id
    · simp [Step.entryAfter, under, same]
    · rw [under, List.find?_cons_of_neg (by simpa using same)]
      show under (t.without started).entries id = _
      rw [others, if_neg same]
      exact (if_neg same).symm
  | clear cleared now =>
    exact ⟨_, rfl, rfl, distinct.filter _, held?_without distinct cleared⟩
  | evict now => exact ⟨_, rfl, rfl, distinct.filter _, under_filter distinct _⟩

/-- A run that the clock can show does to each entry what its steps are to do, one by one. -/
theorem exists_run? (distinct : Distinct t.entries) (steps : List Step)
    (fits : Fits t.lifetime steps) :
    ∃ t', t.run? steps = some t' ∧ t'.lifetime = t.lifetime ∧ Distinct t'.entries ∧
      ∀ id, t'.held? id = steps.foldl (Step.entryAfter t.lifetime id) (t.held? id) := by
  induction steps generalizing t with
  | nil => exact ⟨t, rfl, rfl, distinct, fun _ => rfl⟩
  | cons step steps ih =>
    obtain ⟨t₁, first, lifetime₁, distinct₁, held₁⟩ := exists_step? distinct step
      fun id method now starts => fits id method now (starts ▸ List.mem_cons_self)
    obtain ⟨t₂, rest, lifetime₂, distinct₂, held₂⟩ := ih distinct₁ fun id method now mem => by
      rw [lifetime₁]
      exact fits id method now (List.mem_cons_of_mem _ mem)
    refine ⟨t₂, ?_, lifetime₂.trans lifetime₁, distinct₂, fun id => ?_⟩
    · show (List.foldlM step? t (step :: steps)) = some t₂
      rw [List.foldlM_cons, first]
      exact rest
    · rw [held₂, lifetime₁, held₁, List.foldl_cons]

/-! ## What is shown of it -/

/-- What is told of an entry that has not expired. -/
def timingOf (id : String) (now : Instant) (e : InFlight) : Timing :=
  ⟨id, e.method, (now - e.start) / nanosPerMilli % UInt64.size⟩

theorem get?_eq (t : Timings) (id : String) (now : Instant) :
    t.get? id now = ((t.held? id).filter fun e => now < e.expires).map (timingOf id now) := by
  unfold get? held? under
  cases t.entries.find? (·.1 == id) with
  | none => rfl
  | some entry =>
    obtain ⟨k, e⟩ := entry
    show (if e.expires ≤ now then none else some (timingOf id now e))
      = ((some e).filter fun e => now < e.expires).map (timingOf id now)
    by_cases expired : e.expires ≤ now
    · rw [if_pos expired, Option.filter_some_neg (by simpa using expired)]
      rfl
    · rw [if_neg expired, Option.filter_some_pos (by simpa using expired)]
      rfl

/-- The entry that a step starts. -/
def Step.begun (lifetime : Nat) : Step → Option InFlight
  | .start _ method now => some ⟨method, now, now + lifetime⟩
  | _ => none

/-- Of the entry of an id a run without late evictions shows what the last step on that id has
started. -/
theorem filter_foldl_entryAfter (lifetime : Nat) (id : String) {steps : List Step}
    (early : NoneLate now steps) :
    ((steps.foldl (Step.entryAfter lifetime id) none).filter fun e => now < e.expires)
      = ((lastOn id steps).bind (Step.begun lifetime)).filter fun e => now < e.expires := by
  -- The last step of the run decides unless it is on another id or an eviction.
  induction steps using List.reverseRecOn with
  | nil => rfl
  | append_singleton steps step ih =>
    have ih := ih fun time mem => early time (List.mem_append_left _ mem)
    rw [List.foldl_append, List.foldl_cons, List.foldl_nil, lastOn, lastOf_concat, ← lastOn]
    cases step with
    | start started method time =>
      by_cases same : started = id
      · simp [Step.entryAfter, Step.isOn, Step.begun, same]
      · simpa [Step.entryAfter, Step.isOn, same] using ih
    | clear cleared time =>
      by_cases same : cleared = id
      · simp [Step.entryAfter, Step.isOn, Step.begun, same]
      · simpa [Step.entryAfter, Step.isOn, same] using ih
    | evict time =>
      have past : time ≤ now := early time (by simp)
      have same : ∀ e : InFlight, (decide (time < e.expires) && decide (now < e.expires))
          = decide (now < e.expires) := by
        intro e
        by_cases shown : now < e.expires
        · have spared : time < e.expires := Nat.lt_of_le_of_lt past shown
          simp [shown, spared]
        · simp [shown]
      show Option.filter _ (Option.filter _ _) = _
      rw [Option.filter_filter]
      simp only [same]
      exact ih

/-- The timing that is shown is that of the last step on its id, if this is a start whose time has
not run out. -/
theorem get?_eq_some_iff {steps : List Step} {timing : Timing}
    (held : t.held? id = steps.foldl (Step.entryAfter lifetime id) none)
    (early : NoneLate now steps) :
    t.get? id now = some timing ↔ ∃ method start,
      lastOn id steps = some (.start id method start) ∧ now < start + lifetime ∧
      timing = ⟨id, method, (now - start) / nanosPerMilli % UInt64.size⟩ := by
  rw [get?_eq, held, filter_foldl_entryAfter lifetime id early]
  constructor
  · intro shown
    obtain ⟨e, kept, rfl⟩ := Option.map_eq_some_iff.1 shown
    obtain ⟨found, fresh⟩ := Option.filter_eq_some_iff.1 kept
    obtain ⟨step, last, begins⟩ := Option.bind_eq_some_iff.1 found
    cases step with
    | start id' method start =>
      have own : (Step.start id' method start).isOn id = true := of_lastOf last
      obtain rfl : id' = id := beq_iff_eq.1 own
      obtain rfl : _ = e := Option.some.inj begins
      exact ⟨method, start, last, of_decide_eq_true fresh, rfl⟩
    | clear | evict => cases begins
  · rintro ⟨method, start, last, fresh, rfl⟩
    rw [last, Option.bind_some, Step.begun, Option.filter_some_pos (by simpa using fresh)]
    rfl

/-! ## Evicting -/

/-- The ids of the entries that have expired. -/
def expired (t : Timings) (now : Instant) : List String :=
  (t.entries.filter fun e => !decide (now < e.2.expires)).map (·.1)

theorem nodup_expired (distinct : Distinct t.entries) (now : Instant) : (t.expired now).Nodup :=
  List.pairwise_map.2 (distinct.filter _)

theorem mem_expired (distinct : Distinct t.entries) :
    id ∈ t.expired now ↔ ∃ e, t.held? id = some e ∧ e.expires ≤ now := by
  have member : ∀ e, t.held? id = some e ↔ (id, e) ∈ t.entries := fun e =>
    under_eq_some_iff distinct
  simp [expired, member]

/-- Evicting tells how many entries have expired. -/
theorem evict_fst (t : Timings) (now : Instant) : (t.evict now).1 = (t.expired now).length := by
  have parts := List.length_eq_length_filter_add (l := t.entries) fun e =>
    decide (now < e.2.expires)
  show t.entries.length - (t.entries.filter _).length = _
  rw [expired, List.length_map, parts, Nat.add_sub_cancel_left]

/-- At the same time nothing is left to evict. -/
theorem expired_evict (t : Timings) (now : Instant) : (t.evict now).2.expired now = [] := by
  show ((t.entries.filter _).filter _).map _ = _
  rw [List.filter_filter]
  simp

/-! ## Whole runs -/

/-- After a run of steps the timing of an id is that of the last step on it, if this is a start
whose time has not run out, and no step on another id and no eviction changes it. An eviction tells
the number of entries that have expired and takes them away, so that none is left. Clearing an id
takes its entry away, shown or not. -/
theorem run_shows_last_start (lifetime : Nat) (steps : List Step) (fits : Fits lifetime steps) :
    ∃ t, run? { lifetime } steps = some t ∧
      (∀ id now, NoneLate now steps →
        (∀ timing, t.get? id now = some timing ↔ ∃ method start,
          lastOn id steps = some (.start id method start) ∧ now < start + lifetime ∧
          timing = ⟨id, method, (now - start) / nanosPerMilli % UInt64.size⟩) ∧
        ∀ steps', Fits lifetime steps' → NoneLate now steps' →
          steps'.filter (·.isOn id) = steps.filter (·.isOn id) →
          ∃ t', run? { lifetime } steps' = some t' ∧ t'.get? id now = t.get? id now) ∧
      (∀ now, ∃ gone : List String, gone.Nodup ∧
        (∀ id, id ∈ gone ↔ ∃ e, t.held? id = some e ∧ e.expires ≤ now) ∧
        (t.evict now).1 = gone.length ∧
        (∀ id, (t.evict now).2.held? id = (t.held? id).filter fun e => now < e.expires) ∧
        ((t.evict now).2.evict now).1 = 0) ∧
      ∀ id now, (t.clear id now).1 = t.get? id now ∧ (t.clear id now).2.held? id = none ∧
        ∀ other, id ≠ other → (t.clear id now).2.held? other = t.held? other := by
  obtain ⟨t, ran, -, distinct, held⟩ := exists_run? (t := { lifetime }) distinct_nil steps fits
  refine ⟨t, ran, fun id now early => ⟨fun timing => get?_eq_some_iff (held id) early, ?_⟩,
    fun now => ⟨t.expired now, nodup_expired distinct now, fun id => mem_expired distinct,
      evict_fst t now, fun id => under_filter distinct _ id, ?_⟩,
    fun id now => ⟨rfl, ?_, fun other apart => ?_⟩⟩
  · intro steps' fits' early' same
    obtain ⟨t', ran', -, -, held'⟩ := exists_run? (t := { lifetime }) distinct_nil steps' fits'
    have last : lastOn id steps' = lastOn id steps := congrArg List.getLast? same
    refine ⟨t', ran', Option.ext fun timing => ?_⟩
    rw [get?_eq_some_iff (held' id) early', get?_eq_some_iff (held id) early, last]
  · rw [evict_fst, expired_evict, List.length_nil]
  · exact (held?_without distinct id id).trans (if_pos rfl)
  · exact (held?_without distinct id other).trans (if_neg apart)

/-- A request that is started again after an eviction at the very time of its expiry, and one that
is cleared. -/
def restartedSteps : List Step :=
  [.start "a" "read" 0, .start "b" "check" 500000000, .evict 1000000000,
    .start "a" "check" 1200000000, .clear "b" 1300000000]

theorem run_shows_last_start_restarted :
    let own := restartedSteps.filter (·.isOn "a")
    Fits 1000000000 restartedSteps ∧ NoneLate 2199999999 restartedSteps ∧ Fits 1000000000 own ∧
    NoneLate 2199999999 own ∧ own.filter (·.isOn "a") = restartedSteps.filter (·.isOn "a") ∧
    ∃ t t', run? { lifetime := 1000000000 } restartedSteps = some t ∧
      run? { lifetime := 1000000000 } own = some t' ∧
      t.get? "a" 2199999999 = some ⟨"a", "check", 999⟩ ∧
      t'.get? "a" 2199999999 = some ⟨"a", "check", 999⟩ ∧ t.get? "a" 2200000000 = none := by
  intro own
  have fits : Fits 1000000000 restartedSteps := by
    intro id method now mem
    simp only [restartedSteps, List.mem_cons, Step.start.injEq, reduceCtorEq, List.not_mem_nil,
      or_false, false_or] at mem
    rcases mem with ⟨-, -, rfl⟩ | ⟨-, -, rfl⟩ | ⟨-, -, rfl⟩ <;> decide
  have early : ∀ now, 1000000000 ≤ now → NoneLate now restartedSteps := by
    intro now late time mem
    simp only [restartedSteps, List.mem_cons, Step.evict.injEq, reduceCtorEq, List.not_mem_nil,
      or_false, false_or] at mem
    exact mem ▸ late
  have fits' : Fits 1000000000 own := fun id method now mem =>
    fits id method now (List.mem_filter.1 mem).1
  have early' : NoneLate 2199999999 own := fun time mem =>
    early _ (by decide) time (List.mem_filter.1 mem).1
  have same : own.filter (·.isOn "a") = restartedSteps.filter (·.isOn "a") := by decide
  have last : lastOn "a" restartedSteps = some (.start "a" "check" 1200000000) := by decide
  obtain ⟨t, ran, shows, -⟩ := run_shows_last_start 1000000000 restartedSteps fits
  obtain ⟨shown, alone⟩ := shows "a" 2199999999 (early _ (by decide))
  obtain ⟨t', ran', alike⟩ := alone own fits' early' same
  have running : t.get? "a" 2199999999 = some ⟨"a", "check", 999⟩ :=
    (shown _).2 ⟨"check", 1200000000, last, by decide, by decide⟩
  refine ⟨fits, early _ (by decide), fits', early', same, t, t', ran, ran', running,
    alike.trans running, Option.eq_none_iff_forall_ne_some.2 fun timing found => ?_⟩
  obtain ⟨method, start, last', fresh, -⟩ :=
    ((shows "a" 2200000000 (early _ (by decide))).1 timing).1 found
  cases last.symm.trans last'
  exact absurd fresh (by decide)

end ClaExemption.Timings
