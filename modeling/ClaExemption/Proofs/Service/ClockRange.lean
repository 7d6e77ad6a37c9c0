import ClaExemption.Config.Load
import ClaExemption.Proofs.Service.History

/-!
# How far the clock has to reach

A check notes when its timing expires, and has no answer if the clock cannot
show that time. The configuration is asked only not to be zero about how long
timings are kept (`Config.check_eq_ok_iff`), so a service may be configured that
answers nothing. `Service.check_isSome_iff_clock_reaches` says when one answers.
-/

namespace ClaExemption

/-- What a configuration has to be like for a service to be run with it. -/
theorem Config.check_eq_ok_iff {c c' : Config} :
    c.check = .ok c' ↔ c' = c ∧ c.server.port ≠ 0 ∧ c.server.host ≠ "" ∧ c.timingSeconds ≠ 0 ∧
      ∀ path, c.organizationsPath = some path → Text.trim path ≠ "" := by
  have paths : (c.organizationsPath.any fun path => Text.trim path = "") = true ↔
      ¬ ∀ path, c.organizationsPath = some path → Text.trim path ≠ "" := by
    cases c.organizationsPath <;> simp
  unfold check
  split_ifs with port host lifetime path
  · simp [port]
  · simp [host]
  · simp [lifetime]
  · simp only [false_iff, not_and]
    exact fun _ _ _ _ => paths.1 path
  · simp only [Except.ok.injEq, eq_comm (a := c)]
    exact ⟨fun e => ⟨e, port, host, lifetime, not_not.1 (path ∘ paths.2)⟩, And.left⟩

namespace Service

/-- A timing expires at a time that the clock can show exactly if the whole seconds add up to one
that it counts. -/
theorem add_lt_clockLimit_iff (started secs : Nat) :
    started + secs * nanosPerSecond < clockLimit ↔ started / nanosPerSecond + secs < 2 ^ 63 := by
  unfold clockLimit nanosPerSecond
  omega

/-- A check has an answer exactly if the clock can show when its timing expires. -/
theorem check_isSome_iff (s : Service) (m : Moment) (requestId : String) (r : Request) :
    (s.check m requestId r).isSome ↔ m.started + s.timings.lifetime < clockLimit := by
  by_cases fits : m.started + s.timings.lifetime < clockLimit
  · obtain ⟨after, e, -⟩ := check_of_fits fits requestId r
    rw [e]
    exact iff_of_true rfl fits
  · rw [check_of_not_fits fits]
    exact iff_of_false Bool.false_ne_true fits

/-- Whatever has happened to a service, it answers a request exactly if the seconds that its timings
are kept, on top of those that the clock shows, are fewer than the clock can count. It answers all
up to a reading of the clock exactly if it answers there. That seconds are accepted says only that
they are not zero. -/
theorem check_isSome_iff_clock_reaches (c : Config) (registry : Registry) (sink : Sink) (log : Log)
    (happenings : List Happening) :
    let s := happenings.foldl after (ofConfig c registry sink log)
    (∀ (m : Moment) (requestId : String) (r : Request),
      (s.check m requestId r).isSome ↔
        m.started / nanosPerSecond + c.timingSeconds.toNat < 2 ^ 63) ∧
    (∀ reading : Nat,
      (∀ (m : Moment) (requestId : String) (r : Request),
        m.started / nanosPerSecond ≤ reading → (s.check m requestId r).isSome) ↔
      reading + c.timingSeconds.toNat < 2 ^ 63) ∧
    ∀ c', c.check = .ok c' → ∀ secs : UInt64,
      (Config.check { c with timingSeconds := secs } = .ok { c with timingSeconds := secs } ↔
        secs ≠ 0) := by
  intro s
  have lifetime : s.timings.lifetime = c.timingSeconds.toNat * nanosPerSecond := by
    show (happenings.foldl after _).timings.lifetime = _
    rw [lifetime_foldl]
    rfl
  have answers : ∀ (m : Moment) (requestId : String) (r : Request),
      (s.check m requestId r).isSome ↔
        m.started / nanosPerSecond + c.timingSeconds.toNat < 2 ^ 63 := fun m requestId r => by
    rw [check_isSome_iff, lifetime, add_lt_clockLimit_iff]
  refine ⟨answers, fun reading => ⟨fun all => ?_, fun reaches m requestId r early => ?_⟩,
    fun c' accepted secs => ?_⟩
  · have last : reading * nanosPerSecond / nanosPerSecond = reading :=
      Nat.mul_div_cancel _ (by decide)
    have := (answers _ _ _).1 (all ⟨reading * nanosPerSecond, 0, 0⟩ "" ⟨none, "", "", []⟩ last.le)
    rwa [last] at this
  · exact (answers m requestId r).2 (Nat.lt_of_le_of_lt (Nat.add_le_add_right early _) reaches)
  · obtain ⟨-, port, host, -, path⟩ := Config.check_eq_ok_iff.1 accepted
    rw [Config.check_eq_ok_iff]
    exact ⟨fun h => h.2.2.2.1, fun h => ⟨rfl, port, host, h, path⟩⟩

/-- A configuration that is accepted, and a service of it that answers nothing a second after the
origin of the clock. -/
theorem accepted_config_without_answers :
    ∃ c, Config.ofText "[metrics]\nttl_secs = 9223372036854775807\n" = .ok c ∧
      ∀ requestId r,
        (ofConfig c .empty (.recording []) []).check ⟨nanosPerSecond, nanosPerSecond, 0⟩ requestId r
          = none := by
  have read : (Config.ofText "[metrics]\nttl_secs = 9223372036854775807\n").toOption.map
      (·.timingSeconds) = some 9223372036854775807 := by decide +kernel
  cases e : Config.ofText "[metrics]\nttl_secs = 9223372036854775807\n" with
  | error => rw [e] at read; cases read
  | ok c =>
    rw [e] at read
    have secs : c.timingSeconds = 9223372036854775807 := Option.some.inj read
    refine ⟨c, rfl, fun requestId r => check_of_not_fits ?_ requestId r⟩
    show ¬ nanosPerSecond + c.timingSeconds.toNat * nanosPerSecond < clockLimit
    rw [secs]
    decide

end Service

end ClaExemption
