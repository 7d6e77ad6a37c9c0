import ClaExemption.Rule.Match

/-!
# What computations on a session come to

A cache is `Reachable` if it can be had from a new one by compiling and
clearing; then it is faithful. `Yields x a events` says that `x` comes to the
value `a` and reports `events` whatever a reachable cache holds, and leaves such
a cache behind; sessions that are `Alike` but for their caches stay so. A sink
that keeps no events writes them to the audit log (`Sink.entries`), where
nothing else goes.
`Yields.bind` puts steps together, and each operation has one lemma:
`yields_compile`, `yields_search` and `yields_report` for the session,
`Rule.yields_matchActor` for the matcher.
-/

namespace ClaExemption

/-- The caches that compiling and clearing lead to. -/
inductive PatternCache.Reachable : PatternCache → Prop
  | fresh : Reachable .fresh
  | disabled : Reachable .disabled
  | compile {c : PatternCache} (source : String) : Reachable c → Reachable (c.compile source).2
  | clear {c : PatternCache} : Reachable c → Reachable c.clear

namespace PatternCache

theorem Reachable.faithful {c : PatternCache} (h : c.Reachable) : c.Faithful := by
  induction h with
  | fresh => exact faithful_fresh
  | disabled => exact faithful_disabled
  | compile source _ ih => exact ih.compile_snd source
  | clear _ ih => exact ih.clear

/-- Compiling never switches a cache on or off. -/
theorem compile_enabled (c : PatternCache) (source : String) :
    (c.compile source).2.enabled = c.enabled := by
  unfold PatternCache.compile
  split
  · split <;> rfl
  · rfl

/-- A faithful cache that is switched off is the disabled one. -/
theorem Faithful.eq_disabled {c : PatternCache} (h : c.Faithful) (off : c.enabled = false) :
    c = disabled := by
  obtain ⟨enabled, entries⟩ := c
  obtain rfl : enabled = false := off
  obtain rfl : entries = [] := h.empty rfl
  rfl

end PatternCache

/-- Sessions that differ in what their caches hold alone. -/
structure Session.Alike (s s' : Session) : Prop where
  left : s.cache.Reachable
  right : s'.cache.Reachable
  sink : s.sink = s'.sink
  log : s.log = s'.log

/-- The entries of the audit log. -/
def Session.audited (s : Session) : Log := s.log.filter (·.audit)

theorem filter_audit_concat (log : Log) {entry : Entry} (plain : entry.audit = false) :
    (log ++ [entry]).filter (·.audit) = log.filter (·.audit) := by
  rw [List.filter_append, List.filter_cons_of_neg (by simp [plain]), List.filter_nil,
    List.append_nil]

namespace Sink

/-- What a sink writes to the audit log about events. -/
def entries (sink : Sink) (events : List AuditEvent) : Log :=
  match sink with
  | .recording _ => []
  | .logging => events.map SessionM.auditEntry

theorem append_entries_nil (log : Log) (sink : Sink) : log ++ sink.entries [] = log := by
  cases sink <;> exact List.append_nil log

theorem entries_append (sink : Sink) (events events' : List AuditEvent) :
    sink.entries (events ++ events') = sink.entries events ++ sink.entries events' := by
  cases sink with
  | recording => rfl
  | logging => exact List.map_append

/-- Events do not change how a sink deals with others. -/
theorem entries_foldl_push (sink : Sink) (events events' : List AuditEvent) :
    (events.foldl push sink).entries events' = sink.entries events' := by
  induction events generalizing sink with
  | nil => rfl
  | cons event events ih =>
    rw [List.foldl_cons, ih]
    cases sink <;> rfl

end Sink

namespace SessionM

/-- From every session with a reachable cache, a computation comes to a value and reports events;
the cache stays reachable, and is not switched on or off. What is logged does not depend on what
the cache holds, and only the events go to the audit log. -/
structure Yields {α : Type} (x : SessionM α) (a : α) (events : List AuditEvent) : Prop where
  value {s : Session} : s.cache.Reachable → (x s).1 = a
  reachable {s : Session} : s.cache.Reachable → (x s).2.cache.Reachable
  enabled {s : Session} : s.cache.Reachable → (x s).2.cache.enabled = s.cache.enabled
  sink {s : Session} : s.cache.Reachable → (x s).2.sink = events.foldl Sink.push s.sink
  log {s s' : Session} : s.Alike s' → (x s).2.log = (x s').2.log
  audit {s : Session} : s.cache.Reachable →
    (x s).2.audited = s.audited ++ s.sink.entries events

variable {α β : Type} {x : SessionM α} {a : α} {b : β} {events events' : List AuditEvent}

theorem Yields.alike (hx : Yields x a events) {s s' : Session} (h : s.Alike s') :
    (x s).2.Alike (x s').2 := by
  refine ⟨hx.reachable h.left, hx.reachable h.right, ?_, hx.log h⟩
  rw [hx.sink h.left, hx.sink h.right, h.sink]

theorem Yields.pure (a : α) : Yields (pure a) a [] :=
  ⟨fun _ => rfl, fun h => h, fun _ => rfl, fun _ => rfl, fun h => h.log,
    fun _ => (Sink.append_entries_nil _ _).symm⟩

theorem Yields.bind {f : α → SessionM β} (hx : Yields x a events) (hf : Yields (f a) b events') :
    Yields (x >>= f) b (events ++ events') := by
  have run : ∀ s : Session, s.cache.Reachable → (x >>= f) s = f a (x s).2 := fun s h => by
    rw [← hx.value h]
    rfl
  refine ⟨fun {s} h => ?_, fun {s} h => ?_, fun {s} h => ?_, fun {s} h => ?_, fun {s s'} h => ?_,
    fun {s} h => ?_⟩
  · rw [run s h]
    exact hf.value (hx.reachable h)
  · rw [run s h]
    exact hf.reachable (hx.reachable h)
  · rw [run s h, hf.enabled (hx.reachable h), hx.enabled h]
  · rw [run s h, hf.sink (hx.reachable h), hx.sink h, List.foldl_append]
  · rw [run s h.left, run s' h.right]
    exact hf.log (hx.alike h)
  · rw [run s h, hf.audit (hx.reachable h), hx.audit h, hx.sink h, Sink.entries_foldl_push,
      Sink.entries_append, List.append_assoc]

/-- A step that reports nothing in front of others. -/
theorem Yields.bind_nil {f : α → SessionM β} (hx : Yields x a []) (hf : Yields (f a) b events) :
    Yields (x >>= f) b events :=
  hx.bind hf

/-- A last step that only makes something of the value. -/
theorem Yields.bind_pure {g : α → β} (hx : Yields x a events) :
    Yields (x >>= fun a => Pure.pure (g a)) (g a) events := by
  have := hx.bind (f := fun a => Pure.pure (g a)) (.pure (g a))
  rwa [List.append_nil] at this

theorem yields_logEntry (entry : Entry) (plain : entry.audit = false := by rfl) :
    Yields (logEntry entry) () [] := by
  refine ⟨fun _ => rfl, fun h => h, fun _ => rfl, fun _ => rfl,
    fun h => congrArg (· ++ [entry]) h.log, fun {s} _ => ?_⟩
  rw [Sink.append_entries_nil]
  exact filter_audit_concat s.log plain

theorem yields_compile (source : String) :
    Yields (compile source) ((Regex.compile source).mapError fun f => ⟨source, f⟩) [] :=
  ⟨fun h => h.faithful.compile_fst source, fun h => h.compile source,
    fun _ => PatternCache.compile_enabled _ source, fun _ => rfl, fun h => h.log,
    fun _ => (Sink.append_entries_nil _ _).symm⟩

theorem yields_clearCache : Yields clearCache () [] :=
  ⟨fun _ => rfl, fun h => h.clear, fun _ => rfl, fun _ => rfl, fun h => h.log,
    fun _ => (Sink.append_entries_nil _ _).symm⟩

theorem yields_report (event : AuditEvent) : Yields (report event) () [event] := by
  have run : ∀ s : Session, (report event s).2.cache = s.cache ∧
      (report event s).2.sink = s.sink.push event := by
    rintro ⟨cache, sink, log⟩
    cases sink <;> exact ⟨rfl, rfl⟩
  refine ⟨fun _ => rfl, fun {s} h => ?_, fun {s} _ => ?_, fun {s} _ => (run s).2, ?_, ?_⟩
  · rw [(run s).1]
    exact h
  · rw [(run s).1]
  · rintro ⟨cache, sink, log⟩ ⟨cache', sink', log'⟩ h
    obtain rfl : sink = sink' := h.sink
    obtain rfl : log = log' := h.log
    cases sink <;> rfl
  · rintro ⟨cache, sink, log⟩ -
    cases sink with
    | recording => exact (List.append_nil _).symm
    | logging => exact List.filter_append ..

theorem yields_search (source value : String) :
    Yields (search source value) (Pattern.found source value) [] := by
  refine (yields_compile source).bind_nil ?_
  unfold Pattern.found
  cases Regex.compile source with
  | ok r => exact .pure _
  | error fault => exact (yields_logEntry _).bind_nil (.pure _)

theorem yields_both {x y : SessionM Bool} {p q : Bool} (hx : Yields x p []) (hy : Yields y q []) :
    Yields (both x y) (p && q) [] := by
  refine hx.bind_nil ?_
  cases p with
  | true => exact hy
  | false => exact .pure _

theorem yields_anyOf {test : α → SessionM Bool} {p : α → Bool} (h : ∀ a, Yields (test a) (p a) [])
    (items : List α) : Yields (anyOf test items) (items.any p) [] := by
  induction items with
  | nil => exact .pure _
  | cons item items ih =>
    rw [List.any_cons]
    refine (h item).bind_nil ?_
    cases p item with
    | true => exact .pure _
    | false => exact ih

theorem yields_mapM {test : α → SessionM β} {value : α → β}
    (h : ∀ a, Yields (test a) (value a) []) (items : List α) :
    Yields (items.mapM test) (items.map value) [] := by
  induction items with
  | nil => exact .pure _
  | cons item items ih =>
    rw [List.mapM_cons]
    exact (h item).bind_nil (ih.bind_nil (.pure _))

end SessionM

open SessionM

/-! ## Matching -/

theorem Pattern.yields_matchValue (p : Pattern) (value : String) :
    Yields (p.matchValue value) (p.fits value) [] := by
  cases p with
  | any => exact .pure _
  | empty => exact .pure _
  | exact literal => exact .pure _
  | regex source =>
    by_cases h : value = ""
    · rw [matchValue, if_pos h, fits, decide_eq_false (fun hne => hne h), Bool.false_and]
      exact .pure _
    · rw [matchValue, if_neg h, fits, decide_eq_true h, Bool.true_and]
      exact yields_search source value

theorem Pattern.yields_matchPresent (p : Pattern) (value : String) :
    Yields (p.matchPresent value) (p.fitsPresent value) [] := by
  cases p with
  | any => exact .pure _
  | empty => exact yields_matchValue .empty value
  | regex source => exact yields_matchValue (.regex source) value
  | exact literal => exact yields_matchValue (.exact literal) value

theorem Triple.yields_matchActor (t : Triple) (a : Actor) :
    Yields (t.matchActor a) (t.admits a) [] := by
  rw [admits, Bool.and_assoc]
  exact yields_both (t.login.yields_matchValue _)
    (yields_both (t.email.yields_matchValue _) (t.name.yields_matchValue _))

/-- Matching an actor comes to what the rule says, whatever has been compiled before. -/
theorem Rule.yields_matchActor (r : Rule) (a : Actor) :
    Yields (r.matchActor a) (r.admits a) [] := by
  cases r with
  | extended alternatives => exact yields_anyOf (fun t => t.yields_matchActor a) alternatives
  | simple login email =>
    unfold matchActor admits
    dsimp only
    by_cases h : a.login = ""
    · rw [if_pos h, decide_eq_false (fun hne => hne h), Bool.false_and, Bool.false_and]
      exact .pure _
    · rw [if_neg h, decide_eq_true h, Bool.true_and]
      refine yields_both (login.yields_matchPresent _) ?_
      cases email with
      | none => exact .pure _
      | some p => exact p.yields_matchPresent _

end ClaExemption
