import ClaExemption.Pattern.Basic

/-!
# Rule maps

The rules of an organization: a map from keys to values, kept in ascending order
of keys. A key is the name of a repository, `*` for every repository, or a
regular expression with its mark. The order is that of the code points of keys,
which is also the order of their bytes. `RuleMap.get?` says all about a map
(`ext_get?`): a new entry counts for its key alone (`get?_insert`), and of a list
of entries the last one counts for each key (`get?_ofList`). A list of entries is
put in one by one (`RuleMap.ofList`) or as a whole (`RuleMap.collect`).
-/

namespace ClaExemption

/-- The entry for a key put in its place among entries in ascending order; it replaces an entry of
the same key. -/
def insertSorted (key value : String) : List (String × String) → List (String × String)
  | [] => [(key, value)]
  | (k, v) :: rest =>
    if key < k then (key, value) :: (k, v) :: rest
    else if key = k then (key, value) :: rest
    else (k, v) :: insertSorted key value rest

/-- Whether keys ascend strictly. -/
def Ascending (entries : List (String × String)) : Prop :=
  entries.Pairwise fun a b => a.1 < b.1

theorem mem_insertSorted {key value : String} {entries : List (String × String)}
    {e : String × String} (h : e ∈ insertSorted key value entries) :
    e = (key, value) ∨ e ∈ entries := by
  induction entries with
  | nil => simpa [insertSorted] using h
  | cons head rest ih =>
    obtain ⟨k, v⟩ := head
    unfold insertSorted at h
    split at h
    · simpa using h
    · split at h
      · rcases List.mem_cons.1 h with h | h
        · exact .inl h
        · exact .inr (List.mem_cons_of_mem _ h)
      · rcases List.mem_cons.1 h with h | h
        · exact .inr (h ▸ List.mem_cons_self)
        · rcases ih h with h | h
          · exact .inl h
          · exact .inr (List.mem_cons_of_mem _ h)

theorem ascending_insertSorted {entries : List (String × String)} (h : Ascending entries)
    (key value : String) : Ascending (insertSorted key value entries) := by
  induction entries with
  | nil => simp [insertSorted, Ascending]
  | cons head rest ih =>
    obtain ⟨k, v⟩ := head
    obtain ⟨hk, hrest⟩ := List.pairwise_cons.1 h
    unfold insertSorted
    split
    · rename_i lt
      refine List.pairwise_cons.2 ⟨fun e he => ?_, h⟩
      rcases List.mem_cons.1 he with rfl | he
      · exact lt
      · exact String.lt_trans lt (hk e he)
    · rename_i nlt
      split
      · rename_i eq
        exact List.pairwise_cons.2 ⟨fun e he => eq ▸ hk e he, hrest⟩
      · rename_i ne
        refine List.pairwise_cons.2 ⟨fun e he => ?_, ih hrest⟩
        rcases mem_insertSorted he with rfl | he
        · exact Std.lt_of_le_of_ne (String.not_lt.1 nlt) (Ne.symm ne)
        · exact hk e he

theorem find?_insertSorted (key value k : String) (entries : List (String × String)) :
    ((insertSorted key value entries).find? (·.1 == k)).map (·.2)
      = if k = key then some value else (entries.find? (·.1 == k)).map (·.2) := by
  induction entries with
  | nil =>
    by_cases h : k = key
    · simp [insertSorted, h]
    · simp [insertSorted, h, Ne.symm h]
  | cons head rest ih =>
    obtain ⟨k', v'⟩ := head
    unfold insertSorted
    split
    · by_cases h : k = key
      · simp [h]
      · simp [h, Ne.symm h]
    · split
      · next eq =>
        subst eq
        by_cases h : k = key
        · simp [h]
        · simp [h, Ne.symm h]
      · next ne =>
        by_cases h : k' = k
        · subst h
          simp [Ne.symm ne]
        · simpa [h] using ih

/-- Whether the key of an entry comes before that of another one, or is the same. -/
def keyLe (a b : String × String) : Bool := a.1 ≤ b.1

theorem keyLe_trans (a b c : String × String) (ab : keyLe a b) (bc : keyLe b c) : keyLe a c :=
  decide_eq_true (String.le_trans (of_decide_eq_true ab) (of_decide_eq_true bc))

theorem keyLe_total (a b : String × String) : (keyLe a b || keyLe b a) = true := by
  simpa [keyLe] using String.le_total a.1 b.1

/-- Entries sorted by their keys; those of one key stay in their order. -/
def sortedByKey (entries : List (String × String)) : List (String × String) :=
  entries.mergeSort keyLe

theorem pairwise_sortedByKey (entries : List (String × String)) :
    (sortedByKey entries).Pairwise fun a b => a.1 ≤ b.1 :=
  (List.pairwise_mergeSort keyLe_trans keyLe_total entries).imp of_decide_eq_true

/-- Of entries in a row with one key, the last one. -/
def lastOfRows : List (String × String) → List (String × String)
  | [] => []
  | [e] => [e]
  | e :: e' :: rest =>
    if e.1 = e'.1 then lastOfRows (e' :: rest) else e :: lastOfRows (e' :: rest)

theorem mem_of_mem_lastOfRows {entries : List (String × String)} {e : String × String}
    (h : e ∈ lastOfRows entries) : e ∈ entries := by
  fun_induction lastOfRows entries with
  | case1 => exact h
  | case2 => exact h
  | case3 _ _ _ _ ih => exact List.mem_cons_of_mem _ (ih h)
  | case4 _ _ _ _ ih =>
    rcases List.mem_cons.1 h with rfl | h
    · exact List.mem_cons_self
    · exact List.mem_cons_of_mem _ (ih h)

theorem ascending_lastOfRows {entries : List (String × String)}
    (sorted : entries.Pairwise fun a b => a.1 ≤ b.1) : Ascending (lastOfRows entries) := by
  fun_induction lastOfRows entries with
  | case1 => exact List.Pairwise.nil
  | case2 e => exact List.pairwise_singleton _ e
  | case3 _ _ _ _ ih => exact ih (List.pairwise_cons.1 sorted).2
  | case4 e e' rest apart ih =>
    obtain ⟨above, rising⟩ := List.pairwise_cons.1 sorted
    refine List.pairwise_cons.2 ⟨fun b mem => ?_, ih rising⟩
    have next : e.1 < e'.1 := Std.lt_of_le_of_ne (above e' List.mem_cons_self) apart
    rcases List.mem_cons.1 (mem_of_mem_lastOfRows mem) with rfl | mem
    · exact next
    · exact Std.lt_of_lt_of_le next ((List.pairwise_cons.1 rising).1 b mem)

/-- The rules of an organization. -/
structure RuleMap where
  /-- The keys and their values. -/
  entries : List (String × String)
  /-- The keys ascend. -/
  ascending : Ascending entries
deriving DecidableEq

namespace RuleMap

/-- The map without entries. -/
def empty : RuleMap := ⟨[], List.Pairwise.nil⟩

instance : Inhabited RuleMap := ⟨empty⟩

/-- Puts a value under a key. -/
def insert (m : RuleMap) (key value : String) : RuleMap :=
  ⟨insertSorted key value m.entries, ascending_insertSorted m.ascending key value⟩

/-- The map of a list of entries, of which the last one counts for each key. -/
def ofList (entries : List (String × String)) : RuleMap :=
  entries.foldl (fun m e => m.insert e.1 e.2) empty

/-- The map of a list of entries as a whole: they are sorted, and the last one of each key is
kept. -/
def collect (entries : List (String × String)) : RuleMap :=
  ⟨lastOfRows (sortedByKey entries), ascending_lastOfRows (pairwise_sortedByKey entries)⟩

/-- The value under a key. -/
def get? (m : RuleMap) (key : String) : Option String :=
  (m.entries.find? (·.1 == key)).map (·.2)

theorem get?_insert (m : RuleMap) (key value k : String) :
    (m.insert key value).get? k = if k = key then some value else m.get? k :=
  find?_insertSorted key value k m.entries

theorem get?_ofList (entries : List (String × String)) (k : String) :
    (ofList entries).get? k = (entries.reverse.find? (·.1 == k)).map (·.2) := by
  suffices h : ∀ m : RuleMap, (entries.foldl (fun m e => m.insert e.1 e.2) m).get? k
      = ((entries.reverse.find? (·.1 == k)).map (·.2)).or (m.get? k) by
    simpa [ofList, get?, empty] using h empty
  induction entries with
  | nil => simp
  | cons e entries ih =>
    intro m
    rw [List.foldl_cons, ih, get?_insert, List.reverse_cons, List.find?_append]
    by_cases h : e.1 = k
    · subst h
      cases List.find? (fun x => x.1 == e.1) entries.reverse <;> simp
    · cases List.find? (fun x => x.1 == k) entries.reverse <;> simp [h, Ne.symm h]

theorem get?_eq_some {m : RuleMap} {k v : String} : m.get? k = some v ↔ (k, v) ∈ m.entries := by
  obtain ⟨entries, ascending⟩ := m
  simp only [get?]
  induction entries with
  | nil => simp
  | cons head rest ih =>
    obtain ⟨k', v'⟩ := head
    obtain ⟨above, ascends⟩ := List.pairwise_cons.1 ascending
    by_cases h : k' = k
    · subst h
      simp only [List.find?_cons, beq_self_eq_true, Option.map_some, List.mem_cons, Prod.mk.injEq,
        true_and]
      refine ⟨fun h => .inl (Option.some.inj h).symm, ?_⟩
      rintro (rfl | h)
      · rfl
      · exact absurd (above _ h) (String.lt_irrefl k')
    · simp [h, Ne.symm h, ih ascends]

/-- Maps with the same value under every key are the same. -/
theorem ext_get? {a b : RuleMap} (h : ∀ k, a.get? k = b.get? k) : a = b := by
  obtain ⟨as, ha⟩ := a
  obtain ⟨bs, hb⟩ := b
  have mem : ∀ e, e ∈ as ↔ e ∈ bs := fun ⟨k, v⟩ => by
    rw [← get?_eq_some (m := ⟨as, ha⟩), h, get?_eq_some]
  congr 1
  induction as generalizing bs with
  | nil =>
    cases bs with
    | nil => rfl
    | cons e bs => exact absurd ((mem e).2 List.mem_cons_self) List.not_mem_nil
  | cons a as ih =>
    cases bs with
    | nil => exact absurd ((mem a).1 List.mem_cons_self) List.not_mem_nil
    | cons b bs =>
      obtain ⟨ha₁, ha₂⟩ := List.pairwise_cons.1 ha
      obtain ⟨hb₁, hb₂⟩ := List.pairwise_cons.1 hb
      have eq : a = b := by
        rcases List.mem_cons.1 ((mem a).1 List.mem_cons_self) with eq | ina
        · exact eq
        · rcases List.mem_cons.1 ((mem b).2 List.mem_cons_self) with eq | inb
          · exact eq.symm
          · exact absurd (String.lt_trans (hb₁ a ina) (ha₁ b inb)) (String.lt_irrefl _)
      subst eq
      congr 1
      have mem' : ∀ e, e ∈ as ↔ e ∈ bs := fun e => by
        constructor
        · intro he
          rcases List.mem_cons.1 ((mem e).1 (List.mem_cons_of_mem _ he)) with rfl | h
          · exact absurd (ha₁ e he) (String.lt_irrefl _)
          · exact h
        · intro he
          rcases List.mem_cons.1 ((mem e).2 (List.mem_cons_of_mem _ he)) with rfl | h
          · exact absurd (hb₁ e he) (String.lt_irrefl _)
          · exact h
      have get : ∀ k, get? ⟨as, ha₂⟩ k = get? ⟨bs, hb₂⟩ k := fun k => Option.ext fun v => by
        rw [get?_eq_some, get?_eq_some]
        exact mem' _
      exact ih ha₂ bs hb₂ get mem'

/-- The keys and values in ascending order of keys. -/
def toList (m : RuleMap) : List (String × String) := m.entries

/-- The number of keys. -/
def size (m : RuleMap) : Nat := m.entries.length

/-- An entry whose key is a regular expression: the key, the expression and the value. -/
structure RegexEntry where
  key : String
  source : String
  value : String
deriving DecidableEq, Repr

/-- The entries whose keys are regular expressions, in ascending order of keys. -/
def regexEntries (m : RuleMap) : List RegexEntry :=
  m.entries.filterMap fun (key, value) => (regexSource? key).map fun source => ⟨key, source, value⟩

end RuleMap

end ClaExemption
