import ClaExemption.Proofs.Resolve.Partition

/-!
# Sharing a cache

Resolvers of either grammar, each with a sink of its own or one in common, may
share a cache. `Call` is what can be asked of it, and `Shared.run` makes calls
one after another. What a call answers depends on the call alone
(`Call.yields_answer`, `run_answers`), and runs that start from `Alike` states
end in such (`run_alike`): a disabled cache serves as well, and nobody notices
when the cache is cleared (`shared_cache_transparent`).
-/

namespace ClaExemption

/-- How a resolver reads rules, and which of the sinks it reports to. -/
structure Resolver where
  grammar : Grammar
  sink : Nat

/-- A cache that is shared, the sinks, and the log. -/
structure Shared where
  cache : PatternCache
  sinks : Nat → Sink
  log : Log

/-- What can be asked of a shared cache and those who share it. -/
inductive Call where
  | compile (source : String)
  | search (source value : String)
  | clear
  | select (rules : RuleMap) (repo : String)
  | resolve (r : Resolver) (orgRepo projectId : String) (rules : Option RuleMap)
    (actors : List (Option Actor))

/-- What a call comes back with. -/
inductive Answer where
  | compiled (outcome : Except PatternProblem Regex)
  | found (hit : Bool)
  | cleared
  | selected (entry : Option Selected)
  | decided (decision : Decision)

/-- The answer without the times of events. -/
def Answer.untimed : Answer → Answer
  | .decided d => .decided d.untimed
  | a => a

namespace Call

/-- The sink that a call may report to. -/
def sink : Call → Nat
  | .resolve r _ _ _ _ => r.sink
  | _ => 0

/-- Makes a call at a given time. -/
def answer (now : UInt64) : Call → SessionM Answer
  | .compile source => do return .compiled (← SessionM.compile source)
  | .search source value => do return .found (← SessionM.search source value)
  | .clear => do SessionM.clearCache; return .cleared
  | .select m repo => do return .selected (← selectEntry m repo)
  | .resolve r orgRepo projectId rules actors => do
    return .decided (← ClaExemption.resolve r.grammar ⟨orgRepo, projectId, now⟩ rules actors)

/-- What a call answers at a given time. -/
def value (now : UInt64) : Call → Answer
  | .compile source => .compiled ((Regex.compile source).mapError fun f => ⟨source, f⟩)
  | .search source value => .found (Pattern.found source value)
  | .clear => .cleared
  | .select m repo => .selected (m.selected repo)
  | .resolve r orgRepo projectId rules actors =>
    .decided (Subject.decision ⟨orgRepo, projectId, now⟩ r.grammar rules actors)

/-- What a call reports at a given time. -/
def reports (now : UInt64) : Call → List AuditEvent
  | .resolve r orgRepo projectId rules actors =>
    (Subject.decision ⟨orgRepo, projectId, now⟩ r.grammar rules actors).events
  | _ => []

/-- The answer to a call depends on the call alone. -/
theorem yields_answer (now : UInt64) (c : Call) :
    (c.answer now).Yields (c.value now) (c.reports now) := by
  cases c with
  | compile source => exact (SessionM.yields_compile source).bind_pure
  | search source value => exact (SessionM.yields_search source value).bind_pure
  | clear => exact SessionM.yields_clearCache.bind_pure
  | select m repo => exact (yields_selectEntry m repo).bind_pure
  | resolve r orgRepo projectId rules actors =>
    exact (yields_resolve _ r.grammar rules actors).bind_pure

theorem value_untimed (now now' : UInt64) (c : Call) :
    (c.value now).untimed = (c.value now').untimed := by
  cases c with
  | resolve r orgRepo projectId rules actors =>
    show Answer.decided _ = Answer.decided _
    rw [Subject.decision_untimed orgRepo projectId now now' r.grammar rules actors]
  | _ => rfl

end Call

namespace Shared

/-- What a call finds. -/
def session (w : Shared) (sink : Nat) : Session := ⟨w.cache, w.sinks sink, w.log⟩

/-- Makes a call at a given time. -/
def step (now : UInt64) (c : Call) (w : Shared) : Answer × Shared :=
  let (a, s) := c.answer now (w.session c.sink)
  (a, ⟨s.cache, fun i => if i = c.sink then s.sink else w.sinks i, s.log⟩)

/-- Makes calls one after another, each at its time. -/
def run : List (UInt64 × Call) → Shared → List Answer × Shared
  | [], w => ([], w)
  | (now, c) :: calls, w =>
    let (a, w) := step now c w
    let (as, w) := run calls w
    (a :: as, w)

/-- States that differ in what their caches hold alone. -/
structure Alike (w w' : Shared) : Prop where
  left : w.cache.Reachable
  right : w'.cache.Reachable
  sinks : w.sinks = w'.sinks
  log : w.log = w'.log

variable {w w' : Shared}

theorem Alike.session (h : w.Alike w') (sink : Nat) : (w.session sink).Alike (w'.session sink) :=
  ⟨h.left, h.right, congrFun h.sinks sink, h.log⟩

theorem Alike.eq (h : w.Alike w') : w = { w' with cache := w.cache } := by
  rw [← h.sinks, ← h.log]

/-! ## One call -/

theorem step_fst (now : UInt64) (c : Call) (h : w.cache.Reachable) :
    (step now c w).1 = c.value now :=
  (c.yields_answer now).value (s := w.session c.sink) h

theorem step_reachable (now : UInt64) (c : Call) (h : w.cache.Reachable) :
    (step now c w).2.cache.Reachable :=
  (c.yields_answer now).reachable (s := w.session c.sink) h

theorem step_enabled (now : UInt64) (c : Call) (h : w.cache.Reachable) :
    (step now c w).2.cache.enabled = w.cache.enabled :=
  (c.yields_answer now).enabled (s := w.session c.sink) h

theorem step_alike (now : UInt64) (c : Call) (h : w.Alike w') :
    (step now c w).2.Alike (step now c w').2 := by
  have alike := (c.yields_answer now).alike (h.session c.sink)
  refine ⟨alike.left, alike.right, funext fun i => ?_, alike.log⟩
  show (if i = c.sink then (c.answer now (w.session c.sink)).2.sink else w.sinks i) =
    if i = c.sink then (c.answer now (w'.session c.sink)).2.sink else w'.sinks i
  rw [alike.sink, h.sinks]

/-- Clearing the cache leaves everything else as it is. -/
theorem step_clear_alike (now : UInt64) (h : w.cache.Reachable) :
    (step now .clear w).2.Alike w := by
  refine ⟨h.clear, h, funext fun i => ?_, rfl⟩
  show (if i = 0 then w.sinks 0 else w.sinks i) = w.sinks i
  by_cases first : i = 0
  · rw [if_pos first, first]
  · rw [if_neg first]

/-! ## Runs -/

theorem run_append (before after : List (UInt64 × Call)) (w : Shared) :
    run (before ++ after) w =
      ((run before w).1 ++ (run after (run before w).2).1, (run after (run before w).2).2) := by
  induction before generalizing w with
  | nil => rfl
  | cons c before ih =>
    show (_ :: (run (before ++ after) _).1, (run (before ++ after) _).2) = _
    rw [ih]
    rfl

/-- Calls lead to reachable caches, and switch none on or off. -/
theorem run_reachable (calls : List (UInt64 × Call)) (h : w.cache.Reachable) :
    (run calls w).2.cache.Reachable ∧ (run calls w).2.cache.enabled = w.cache.enabled := by
  induction calls generalizing w with
  | nil => exact ⟨h, rfl⟩
  | cons c calls ih =>
    have rest := ih (step_reachable c.1 c.2 h)
    exact ⟨rest.1, rest.2.trans (step_enabled c.1 c.2 h)⟩

/-- The answers of a run are those that its calls have by themselves. -/
theorem run_answers (calls : List (UInt64 × Call)) (h : w.cache.Reachable) :
    (run calls w).1 = calls.map fun c => c.2.value c.1 := by
  induction calls generalizing w with
  | nil => rfl
  | cons c calls ih =>
    exact List.cons_eq_cons.2 ⟨step_fst c.1 c.2 h, ih (step_reachable c.1 c.2 h)⟩

theorem run_alike (calls : List (UInt64 × Call)) (h : w.Alike w') :
    (run calls w).2.Alike (run calls w').2 := by
  induction calls generalizing w w' with
  | nil => exact h
  | cons c calls ih => exact ih (step_alike c.1 c.2 h)

/-- Clearing the cache between calls leaves all but the cache as it is. -/
theorem run_clear_alike (before after : List (UInt64 × Call)) (now : UInt64)
    (h : w.cache.Reachable) :
    (run (before ++ (now, .clear) :: after) w).2.Alike (run (before ++ after) w).2 := by
  rw [run_append, run_append]
  exact run_alike after (step_clear_alike now (run_reachable before h).1)

theorem run_clear_answers (before after : List (UInt64 × Call)) (now : UInt64)
    (h : w.cache.Reachable) :
    (run (before ++ (now, .clear) :: after) w).1 =
      (run (before ++ after) w).1.take before.length ++
        .cleared :: (run (before ++ after) w).1.drop before.length := by
  have len : before.length = (before.map fun c => c.2.value c.1).length :=
    (List.length_map _).symm
  rw [run_answers _ h, run_answers _ h, List.map_append, List.map_append, List.map_cons, len,
    List.take_left, List.drop_left]
  rfl

/-- Over any run of those who share a new cache, each call answers what it answers by itself with a
disabled cache, at another time as well but for the times of events. The same run with a disabled
cache leaves the same sinks and log behind. The cache holds the outcomes of compiling, each once,
and a disabled one stays as it is. Clearing the cache somewhere in the run changes no other answer,
and neither the sinks nor the log. -/
theorem shared_cache_transparent (before after : List (UInt64 × Call)) (now : UInt64)
    (sinks : Nat → Sink) (log : Log) :
    let calls := before ++ after
    let shared := run calls ⟨.fresh, sinks, log⟩
    let unshared := run calls ⟨.disabled, sinks, log⟩
    let cleared := run (before ++ (now, .clear) :: after) ⟨.fresh, sinks, log⟩
    (∀ sink log, shared.1 = calls.map fun c => (c.2.answer c.1 ⟨.disabled, sink, log⟩).1) ∧
    (∀ (clock : Nat → UInt64) (sink : Sink) (log : Log), shared.1.map Answer.untimed =
      calls.mapIdx fun i c => (c.2.answer (clock i) ⟨.disabled, sink, log⟩).1.untimed) ∧
    unshared = (shared.1, { shared.2 with cache := .disabled }) ∧
    shared.2.cache.Faithful ∧
    ∃ cache, cache.Faithful ∧ cleared =
      (shared.1.take before.length ++ .cleared :: shared.1.drop before.length,
        { shared.2 with cache }) := by
  intro calls shared unshared cleared
  have alone : shared.1 = calls.map fun c => c.2.value c.1 := run_answers calls .fresh
  refine ⟨fun sink log => ?_, fun clock sink log => ?_, ?_, ?_, ?_⟩
  · rw [alone]
    exact List.map_congr_left fun c _ => ((c.2.yields_answer c.1).value .disabled).symm
  · rw [alone, List.map_map]
    refine List.ext_getElem (by simp) fun i _ _ => ?_
    rw [List.getElem_map, List.getElem_mapIdx, (Call.yields_answer _ _).value .disabled]
    exact Call.value_untimed _ _ _
  · have alike : unshared.2.Alike shared.2 := run_alike calls ⟨.disabled, .fresh, rfl, rfl⟩
    have off : unshared.2.cache = .disabled :=
      alike.left.faithful.eq_disabled (run_reachable calls (w := ⟨_, sinks, log⟩) .disabled).2
    refine Prod.ext (by rw [alone]; exact run_answers calls .disabled) ?_
    rw [alike.eq, off]
  · exact (run_reachable calls .fresh).1.faithful
  · have alike : cleared.2.Alike shared.2 := run_clear_alike before after now .fresh
    refine ⟨cleared.2.cache, alike.left.faithful, Prod.ext ?_ alike.eq⟩
    exact run_clear_answers before after now .fresh

end Shared

end ClaExemption
