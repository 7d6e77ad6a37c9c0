import ClaExemption.Pattern.Basic

/-!
# The cache of compiled patterns

Compiling an expression is remembered, failures included, unless the cache is
disabled. What a cache answers never depends on what it holds, as long as each
entry is the outcome of compiling its expression (`Faithful`, `compile_fst`),
which is so of every cache that is used (`compile_snd`).
-/

namespace ClaExemption

/-- An expression that does not compile, and why. -/
structure PatternProblem where
  source : String
  fault : Regex.Fault
deriving DecidableEq, Repr

/-- The description of a problem. -/
def PatternProblem.message (p : PatternProblem) : String :=
  "Invalid regex pattern '" ++ p.source ++ "'"

/-- Remembered outcomes of compiling expressions. -/
structure PatternCache where
  enabled : Bool
  /-- Each expression once, with its outcome. -/
  entries : List (String × Except Regex.Fault Regex)

namespace PatternCache

/-- An empty cache that remembers. -/
def fresh : PatternCache := ⟨true, []⟩

/-- A cache that remembers nothing. -/
def disabled : PatternCache := ⟨false, []⟩

/-- The number of expressions remembered. -/
def size (c : PatternCache) : Nat := c.entries.length

/-- Forgets everything. -/
def clear (c : PatternCache) : PatternCache := { c with entries := [] }

/-- The outcome remembered for an expression. -/
def find? (c : PatternCache) (source : String) : Option (Except Regex.Fault Regex) :=
  (c.entries.find? (·.1 == source)).map (·.2)

/-- The outcome of compiling an expression, and the cache afterwards. -/
def compile (c : PatternCache) (source : String) :
    Except PatternProblem Regex × PatternCache :=
  let named (outcome : Except Regex.Fault Regex) := outcome.mapError fun f => ⟨source, f⟩
  if c.enabled then
    match c.find? source with
    | some outcome => (named outcome, c)
    | none =>
      let outcome := Regex.compile source
      (named outcome, { c with entries := (source, outcome) :: c.entries })
  else (named (Regex.compile source), c)

/-- Every entry is the outcome of compiling its expression, each expression is there once, and a
disabled cache is empty. -/
structure Faithful (c : PatternCache) : Prop where
  outcome : ∀ e ∈ c.entries, e.2 = Regex.compile e.1
  nodup : (c.entries.map (·.1)).Nodup
  empty : c.enabled = false → c.entries = []

theorem faithful_fresh : Faithful fresh := ⟨by simp [fresh], by simp [fresh], by simp [fresh]⟩

theorem faithful_disabled : Faithful disabled :=
  ⟨by simp [disabled], by simp [disabled], by simp [disabled]⟩

theorem Faithful.clear {c : PatternCache} (_ : c.Faithful) : c.clear.Faithful :=
  ⟨by simp [PatternCache.clear], by simp [PatternCache.clear], by simp [PatternCache.clear]⟩

theorem Faithful.compile_fst {c : PatternCache} (h : c.Faithful) (source : String) :
    (c.compile source).1 = (Regex.compile source).mapError fun f => ⟨source, f⟩ := by
  unfold PatternCache.compile
  split
  · split
    · next found =>
      obtain ⟨e, he, rfl⟩ := Option.map_eq_some_iff.1 found
      have key : e.1 = source := by simpa using List.find?_some he
      rw [h.outcome e (List.mem_of_find?_eq_some he), key]
    · rfl
  · rfl

theorem Faithful.compile_snd {c : PatternCache} (h : c.Faithful) (source : String) :
    (c.compile source).2.Faithful := by
  unfold PatternCache.compile
  split
  · next enabled =>
    split
    · exact h
    · next missing =>
      have absent : source ∉ c.entries.map (·.1) := by
        intro hin
        obtain ⟨e, he, rfl⟩ := List.mem_map.1 hin
        have := List.find?_eq_none.1 (Option.map_eq_none_iff.1 missing) e he
        simp at this
      refine ⟨?_, ?_, fun disabled => by simp [enabled] at disabled⟩
      · intro e he
        rcases List.mem_cons.1 he with rfl | he
        · rfl
        · exact h.outcome e he
      · exact List.nodup_cons.2 ⟨absent, h.nodup⟩
  · exact h

end PatternCache

end ClaExemption
