import ClaExemption.Proofs.Session.Yields

/-!
# What computations on a session compile

`Tries x sources` says that `x` compiles `sources`, in this order, whatever a
reachable cache holds, and that the log has a complaint of each that does not
compile. What is left in a new cache tells the expressions (`Tries.mem_iff`).
`TriesExactly x P` says that they are those with the property `P`, and
`TriesOnly x P` that they have it: `TriesExactly.bind` puts steps together,
`TriesExactly.compile` compiles one more, and `triesExactly_both` and
`triesExactly_anyOf` are about tests that stop as soon as the answer is known.
`TriesExactly.holds` says what is left in a new cache.
-/

namespace ClaExemption

/-- The problem of an expression, if it does not compile. -/
def Regex.problem? (source : String) : Option PatternProblem :=
  match Regex.compile source with
  | .ok _ => none
  | .error fault => some ⟨source, fault⟩

theorem Regex.problem?_of_ok {source : String} {r : Regex} (h : Regex.compile source = .ok r) :
    problem? source = none := by
  rw [problem?, h]

theorem Regex.problem?_of_error {source : String} {fault : Fault}
    (h : Regex.compile source = .error fault) : problem? source = some ⟨source, fault⟩ := by
  rw [problem?, h]

theorem Regex.problem?_eq_some_iff {source : String} {p : PatternProblem} :
    problem? source = some p ↔ p.source = source ∧ Regex.compile source = .error p.fault := by
  obtain ⟨source', fault⟩ := p
  unfold problem?
  cases Regex.compile source with
  | ok r => exact ⟨nofun, fun h => nomatch h.2⟩
  | error fault' =>
    simp only [Option.some.injEq, PatternProblem.mk.injEq, Except.error.injEq, eq_comm]

/-- What an entry says went wrong. -/
def Entry.complaint? (e : Entry) : Option Detail := e.details.lookup "error"

/-- The complaint of a problem. -/
def PatternProblem.complaint (p : PatternProblem) : Detail := .text p.message

/-- All that the log says went wrong, in order. -/
def Session.complaints (s : Session) : List Detail := s.log.filterMap Entry.complaint?

namespace PatternCache

/-- The cache after compiling expressions one after another. -/
def compileAll (c : PatternCache) (sources : List String) : PatternCache :=
  sources.foldl (fun c source => (c.compile source).2) c

/-- A cache that is switched on has the expression just compiled, and those that it had. -/
theorem isSome_find?_compile {c : PatternCache} (on : c.enabled = true) (source source' : String) :
    ((c.compile source).2.find? source').isSome = true ↔
      source = source' ∨ (c.find? source').isSome = true := by
  unfold PatternCache.compile
  rw [if_pos on]
  split
  · next found =>
    exact ⟨.inr, Or.rec (fun same => by rw [← same, found]; rfl) id⟩
  · by_cases same : source = source'
    · simp [find?, same]
    · simp [find?, same]

/-- Compiling from a new cache leaves just the expressions compiled. -/
theorem isSome_find?_compileAll (sources : List String) (source : String) :
    ((fresh.compileAll sources).find? source).isSome = true ↔ source ∈ sources := by
  suffices h : ∀ c : PatternCache, c.enabled = true →
      (((c.compileAll sources).find? source).isSome = true ↔
        source ∈ sources ∨ (c.find? source).isSome = true) by
    rw [h fresh rfl]
    exact or_iff_left Bool.false_ne_true
  induction sources with
  | nil => exact fun c _ => ⟨.inr, Or.rec nofun id⟩
  | cons first sources ih =>
    intro c on
    rw [List.mem_cons, compileAll, List.foldl_cons]
    refine (ih _ ((compile_enabled c first).trans on)).trans ?_
    rw [isSome_find?_compile on, eq_comm (a := first), or_left_comm, or_assoc]

/-- The expressions remembered are those that are found. -/
theorem isSome_find?_iff {c : PatternCache} {source : String} :
    (c.find? source).isSome = true ↔ source ∈ c.entries.map (·.1) := by
  rw [find?, Option.isSome_map, List.find?_isSome, List.mem_map]
  simp only [beq_iff_eq]

/-- A cache holds the expressions with a property, each once, with the outcome of compiling it, and
no others. -/
structure Holds (c : PatternCache) (P : String → Prop) : Prop where
  once : (c.entries.map (·.1)).Nodup
  mem_iff (source : String) : source ∈ c.entries.map (·.1) ↔ P source
  outcome : ∀ e ∈ c.entries, e.2 = Regex.compile e.1

end PatternCache

namespace SessionM

/-- From every session with a reachable cache, a computation compiles some expressions, and the log
has a complaint of each of them that does not compile and no other. -/
structure Tries {α : Type} (x : SessionM α) (sources : List String) : Prop where
  cache {s : Session} : s.cache.Reachable → (x s).2.cache = s.cache.compileAll sources
  complaints {s : Session} : s.cache.Reachable → (x s).2.complaints =
    s.complaints ++ (sources.filterMap Regex.problem?).map PatternProblem.complaint

/-- A computation tries only expressions with a property. -/
def TriesOnly {α : Type} (x : SessionM α) (P : String → Prop) : Prop :=
  ∃ sources, Tries x sources ∧ ∀ source ∈ sources, P source

/-- A computation tries the expressions with a property and no others. -/
def TriesExactly {α : Type} (x : SessionM α) (P : String → Prop) : Prop :=
  ∃ sources, Tries x sources ∧ ∀ source, source ∈ sources ↔ P source

variable {α β : Type} {x : SessionM α} {a : α} {events : List AuditEvent} {P Q : String → Prop}

/-- What a computation tries is what it leaves in a new cache. -/
theorem Tries.mem_iff {sources : List String} (h : Tries x sources) (sink : Sink) (log : Log)
    {source : String} :
    source ∈ sources ↔ ((x ⟨.fresh, sink, log⟩).2.cache.find? source).isSome = true := by
  rw [h.cache .fresh, PatternCache.isSome_find?_compileAll]

theorem TriesExactly.congr (h : TriesExactly x P) (same : ∀ source, P source ↔ Q source) :
    TriesExactly x Q := by
  obtain ⟨sources, tries, mem⟩ := h
  exact ⟨sources, tries, fun source => (mem source).trans (same source)⟩

theorem TriesExactly.only (h : TriesExactly x P) (within : ∀ source, P source → Q source) :
    TriesOnly x Q := by
  obtain ⟨sources, tries, mem⟩ := h
  exact ⟨sources, tries, fun source listed => within source ((mem source).1 listed)⟩

/-- A computation complains of something if an expression that it tries does not compile, and only
then. -/
theorem TriesExactly.complaints_ne_iff (h : TriesExactly x P) {s : Session}
    (reachable : s.cache.Reachable) :
    (x s).2.complaints ≠ s.complaints ↔
      ∃ source fault, P source ∧ Regex.compile source = .error fault := by
  obtain ⟨sources, tries, mem⟩ := h
  rw [tries.complaints reachable, ne_eq, List.append_right_eq_self, List.map_eq_nil_iff,
    List.filterMap_eq_nil_iff]
  simp only [Classical.not_forall, mem, exists_prop]
  refine exists_congr fun source => ?_
  rw [exists_and_left]
  refine and_congr_right fun _ => ?_
  cases e : Regex.compile source with
  | ok r => exact ⟨fun h => absurd (Regex.problem?_of_ok e) h, nofun⟩
  | error fault =>
    rw [Regex.problem?_of_error e]
    exact ⟨fun _ => ⟨fault, rfl⟩, fun _ => nofun⟩

/-- A computation that started with a new cache leaves in it the expressions that it tries, each
once and with the outcome of compiling it. -/
theorem TriesExactly.holds (hy : Yields x a events) (h : TriesExactly x P) (sink : Sink)
    (log : Log) : (x ⟨.fresh, sink, log⟩).2.cache.Holds P := by
  obtain ⟨sources, tries, mem⟩ := h
  have faithful := (hy.reachable (s := ⟨.fresh, sink, log⟩) .fresh).faithful
  refine ⟨faithful.nodup, fun source => ?_, faithful.outcome⟩
  rw [← PatternCache.isSome_find?_iff, ← tries.mem_iff sink log]
  exact mem source

/-- A computation that compiles nothing and complains of nothing. -/
theorem TriesExactly.of_quiet (cache : ∀ s, (x s).2.cache = s.cache)
    (complaints : ∀ s, (x s).2.complaints = s.complaints) : TriesExactly x fun _ => False :=
  ⟨[], ⟨fun _ => cache _, fun _ => (complaints _).trans (List.append_nil _).symm⟩,
    fun _ => ⟨List.not_mem_nil, False.elim⟩⟩

theorem TriesExactly.pure (a : α) : TriesExactly (pure a) fun _ => False :=
  .of_quiet (fun _ => rfl) fun _ => rfl

theorem TriesExactly.pure_of_none {a : α} (none : ∀ source, ¬ P source) :
    TriesExactly (Pure.pure a) P :=
  (TriesExactly.pure a).congr fun source => (iff_false_left id).2 (none source)

theorem TriesExactly.bind {f : α → SessionM β} (hy : Yields x a events) (hx : TriesExactly x P)
    (hf : TriesExactly (f a) Q) : TriesExactly (x >>= f) fun source => P source ∨ Q source := by
  obtain ⟨sources, hx, mem⟩ := hx
  obtain ⟨sources', hf, mem'⟩ := hf
  have run : ∀ s : Session, s.cache.Reachable → (x >>= f) s = f a (x s).2 := fun s h => by
    rw [← hy.value h]
    rfl
  refine ⟨sources ++ sources', ⟨fun {s} h => ?_, fun {s} h => ?_⟩, fun source => ?_⟩
  · rw [run s h, hf.cache (hy.reachable h), hx.cache h]
    exact List.foldl_append.symm
  · rw [run s h, hf.complaints (hy.reachable h), hx.complaints h, List.append_assoc,
      List.filterMap_append, List.map_append]
  · rw [List.mem_append, mem, mem']

/-- A step that compiles nothing in front of others. -/
theorem TriesExactly.quiet_bind {f : α → SessionM β} (hy : Yields x a events)
    (hx : TriesExactly x fun _ => False) (hf : TriesExactly (f a) P) : TriesExactly (x >>= f) P :=
  (hx.bind hy hf).congr fun _ => or_iff_right id

/-- A last step that only makes something of the value. -/
theorem TriesExactly.bind_quiet {f : α → SessionM β} (hy : Yields x a events)
    (hx : TriesExactly x P) (hf : TriesExactly (f a) fun _ => False) : TriesExactly (x >>= f) P :=
  (hx.bind hy hf).congr fun _ => or_iff_left id

theorem complaints_logEntry (entry : Entry) (s : Session) :
    (logEntry entry s).2.complaints = s.complaints ++ entry.complaint?.toList := by
  show (s.log ++ [entry]).filterMap _ = _
  rw [List.filterMap_append, Session.complaints, List.filterMap_cons]
  cases entry.complaint? <;> rfl

/-- A quiet entry in front of other steps. -/
theorem TriesExactly.logEntry_bind {f : Unit → SessionM β} (entry : Entry)
    (h : TriesExactly (f ()) P) (plain : entry.audit = false := by rfl)
    (quiet : entry.complaint? = none := by rfl) : TriesExactly (logEntry entry >>= f) P := by
  refine .quiet_bind (yields_logEntry entry plain) (.of_quiet (fun _ => rfl) fun s => ?_) h
  rw [complaints_logEntry, quiet]
  exact List.append_nil _

/-- An expression is compiled, and a complaint is made if that fails, in front of other steps. -/
theorem TriesExactly.compile {source : String} {f : Except PatternProblem Regex → SessionM β}
    (ok : ∀ r, Regex.compile source = .ok r → TriesExactly (f (.ok r)) P)
    (fails : ∀ problem : PatternProblem, Regex.problem? source = some problem →
      ∃ entry rest, f (.error problem) = (do logEntry entry; rest) ∧
        entry.complaint? = some problem.complaint ∧ TriesExactly rest P) :
    TriesExactly (compile source >>= f) fun source' => source' = source ∨ P source' := by
  cases e : Regex.compile source with
  | ok r =>
    refine .bind (yields_compile source) ⟨[source], ⟨fun _ => rfl, fun _ => ?_⟩, ?_⟩ ?_
    · rw [List.filterMap_cons_none (Regex.problem?_of_ok e)]
      exact (List.append_nil _).symm
    · exact fun _ => List.mem_singleton
    · rw [e]
      exact ok r e
  | error fault =>
    have problem := Regex.problem?_of_error e
    obtain ⟨entry, rest, eq, complaint, sources, tries, mem⟩ := fails _ problem
    -- The complaint comes after compiling, so both are one step here.
    have run : ∀ s : Session, s.cache.Reachable → (SessionM.compile source >>= f) s =
        rest (logEntry entry (SessionM.compile source s).2).2 := fun s h => by
      show f (SessionM.compile source s).1 (SessionM.compile source s).2 = _
      rw [(yields_compile source).value h, e]
      exact congrFun eq _
    refine ⟨source :: sources, ⟨fun {s} h => ?_, fun {s} h => ?_⟩, fun source' => ?_⟩
    · rw [run s h, tries.cache (h.compile source)]
      rfl
    · rw [run s h, tries.complaints (h.compile source), complaints_logEntry, complaint,
        List.filterMap_cons_some problem, List.append_assoc]
      rfl
    · rw [List.mem_cons, mem]

theorem triesExactly_search (source value : String) :
    TriesExactly (search source value) (· = source) := by
  refine TriesExactly.congr ?_ fun _ => or_iff_left id
  exact .compile (fun _ _ => .pure _) fun _ _ => ⟨_, _, rfl, rfl, .pure _⟩

theorem triesExactly_report (event : AuditEvent) :
    TriesExactly (report event) fun _ => False := by
  refine .of_quiet ?_ ?_
  · rintro ⟨cache, sink, log⟩
    cases sink <;> rfl
  · rintro ⟨cache, sink, log⟩
    cases sink with
    | recording => rfl
    | logging => exact (complaints_logEntry (auditEntry event) _).trans (List.append_nil _)

/-! ## Tests that stop early -/

/-- The second of two tests is made if the first one succeeds. -/
theorem triesExactly_both {x y : SessionM Bool} {p : Bool} (hy : Yields x p [])
    (hx : TriesExactly x P) (h : TriesExactly y Q) :
    TriesExactly (both x y) fun source => P source ∨ (p = true ∧ Q source) := by
  refine .bind hy hx ?_
  cases p with
  | true => exact h.congr fun _ => (and_iff_right rfl).symm
  | false => exact .pure_of_none fun _ h => nomatch h.1

/-- A search through a list comes to an item, as none before it passes the test. -/
def ComesTo (p : α → Bool) (items : List α) (item : α) : Prop :=
  ∃ before after, items = before ++ item :: after ∧ ∀ b ∈ before, p b = false

theorem not_comesTo_nil {p : α → Bool} {item : α} : ¬ ComesTo p [] item := by
  rintro ⟨before, after, split, -⟩
  cases before <;> cases split

theorem comesTo_cons_iff {p : α → Bool} {first item : α} {items : List α} :
    ComesTo p (first :: items) item ↔ item = first ∨ (p first = false ∧ ComesTo p items item) := by
  constructor
  · rintro ⟨before, after, split, missed⟩
    cases before with
    | nil =>
      cases split
      exact .inl rfl
    | cons b before =>
      cases split
      obtain ⟨missed, others⟩ := List.forall_mem_cons.1 missed
      exact .inr ⟨missed, before, after, rfl, others⟩
  · rintro (rfl | ⟨missed, before, after, rfl, others⟩)
    · exact ⟨[], items, rfl, nofun⟩
    · exact ⟨first :: before, after, rfl, List.forall_mem_cons.2 ⟨missed, others⟩⟩

theorem ComesTo.mem {p : α → Bool} {items : List α} {item : α} (h : ComesTo p items item) :
    item ∈ items := by
  obtain ⟨before, after, rfl, -⟩ := h
  exact List.mem_append_right _ List.mem_cons_self

/-- What a search tries for the first item, and then for the others unless that one passes. -/
theorem exists_comesTo_cons_iff {p : α → Bool} {first : α} {items : List α} {R : α → Prop} :
    (∃ item, ComesTo p (first :: items) item ∧ R item) ↔
      R first ∨ (p first = false ∧ ∃ item, ComesTo p items item ∧ R item) := by
  constructor
  · rintro ⟨item, comes, h⟩
    rcases comesTo_cons_iff.1 comes with rfl | ⟨missed, comes⟩
    · exact .inl h
    · exact .inr ⟨missed, item, comes, h⟩
  · rintro (h | ⟨missed, item, comes, h⟩)
    · exact ⟨first, comesTo_cons_iff.2 (.inl rfl), h⟩
    · exact ⟨item, comesTo_cons_iff.2 (.inr ⟨missed, comes⟩), h⟩

theorem triesExactly_anyOf {test : α → SessionM Bool} {p : α → Bool} {R : α → String → Prop}
    (hy : ∀ a, Yields (test a) (p a) []) (h : ∀ a, TriesExactly (test a) (R a)) (items : List α) :
    TriesExactly (anyOf test items) fun source => ∃ item, ComesTo p items item ∧ R item source := by
  induction items with
  | nil => exact .pure_of_none fun _ ⟨_, comes, _⟩ => not_comesTo_nil comes
  | cons first items ih =>
    refine TriesExactly.congr ?_ fun _ => exists_comesTo_cons_iff.symm
    refine .bind (hy first) (h first) ?_
    cases p first with
    | true => exact .pure_of_none fun _ h => nomatch h.1
    | false => exact ih.congr fun _ => (and_iff_right rfl).symm

/-- A test made of all items of a list. -/
theorem triesExactly_mapM {test : α → SessionM β} {value : α → β} {R : α → String → Prop}
    (hy : ∀ a, Yields (test a) (value a) []) (h : ∀ a, TriesExactly (test a) (R a))
    (items : List α) :
    TriesExactly (items.mapM test) fun source => ∃ item ∈ items, R item source := by
  induction items with
  | nil => exact .pure_of_none fun _ ⟨_, mem, _⟩ => List.not_mem_nil mem
  | cons first items ih =>
    rw [List.mapM_cons]
    refine TriesExactly.congr (P := fun source => R first source ∨ ∃ item ∈ items, R item source)
      ?_ fun source => by simp only [List.mem_cons, exists_eq_or_imp]
    refine .bind (hy first) (h first) ?_
    exact .bind_quiet (yields_mapM hy items) ih (.pure _)

end SessionM

end ClaExemption
