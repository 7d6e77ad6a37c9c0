import Mathlib.Data.List.Basic

/-!
# Entries under keys

A list of entries no two of which have the same key is as good as a map. What is
under a key is the entry of the list with that key (`under_eq_some_iff`), and
leaving entries out leaves out nothing else (`under_filter`). In a run of
changes the last one that is about a key decides (`lastOf`).
-/

namespace ClaExemption.Keyed

variable {α : Type} {entries : List (String × α)} {key : String} {a : α}

/-- No two entries have the same key. -/
def Distinct (entries : List (String × α)) : Prop :=
  entries.Pairwise fun a b => a.1 ≠ b.1

/-- What the first entry with a key holds. -/
def under (entries : List (String × α)) (key : String) : Option α :=
  (entries.find? (·.1 == key)).map (·.2)

theorem distinct_nil : Distinct ([] : List (String × α)) := List.Pairwise.nil

theorem Distinct.filter (h : Distinct entries) (p : String × α → Bool) :
    Distinct (entries.filter p) :=
  List.Pairwise.filter p h

/-- An entry put in front takes the place of those with its key. -/
theorem Distinct.replace (h : Distinct entries) (key : String) (a : α) :
    Distinct ((key, a) :: entries.filter (·.1 != key)) := by
  refine List.pairwise_cons.2 ⟨fun e mem => ?_, h.filter _⟩
  have other : (e.1 != key) = true := (List.mem_filter.1 mem).2
  exact (bne_iff_ne.1 other).symm

theorem under_eq_some_iff (h : Distinct entries) :
    under entries key = some a ↔ (key, a) ∈ entries := by
  induction entries with
  | nil => simp [under]
  | cons e entries ih =>
    obtain ⟨k, b⟩ := e
    obtain ⟨others, distinct⟩ := List.pairwise_cons.1 h
    by_cases same : k = key
    · subst same
      have absent : (k, a) ∉ entries := fun mem => others _ mem rfl
      have first : under ((k, b) :: entries) k = some b := by simp [under]
      rw [first, List.mem_cons, Prod.mk.injEq]
      simp [absent, eq_comm]
    · have skipped : under ((k, b) :: entries) key = under entries key := by simp [under, same]
      rw [skipped, ih distinct, List.mem_cons, Prod.mk.injEq]
      simp [Ne.symm same]

/-- Leaving entries out leaves what is under a key, unless that is left out itself. -/
theorem under_filter (h : Distinct entries) (p : String × α → Bool) (key : String) :
    under (entries.filter p) key = (under entries key).filter fun a => p (key, a) := by
  refine Option.ext fun a => ?_
  rw [under_eq_some_iff (h.filter p), List.mem_filter, ← under_eq_some_iff h,
    Option.filter_eq_some_iff]

/-! ## The last change -/

variable {β : Type} {p : β → Bool} {b : β}

/-- The last element of a list that has a property. -/
def lastOf (p : β → Bool) (changes : List β) : Option β := (changes.filter p).getLast?

theorem lastOf_concat (p : β → Bool) (changes : List β) (b : β) :
    lastOf p (changes ++ [b]) = if p b then some b else lastOf p changes := by
  unfold lastOf
  rw [List.filter_append]
  cases holds : p b with
  | true => simp [holds]
  | false => simp [holds]

theorem lastOf_cons (p : β → Bool) (b : β) (changes : List β) :
    lastOf p (b :: changes) = (lastOf p changes).or (if p b then some b else none) := by
  unfold lastOf
  cases holds : p b with
  | true =>
    rw [List.filter_cons_of_pos holds, List.getLast?_cons, if_pos rfl]
    cases (changes.filter p).getLast? <;> rfl
  | false => simp [holds]

theorem of_lastOf {changes : List β} (last : lastOf p changes = some b) : p b = true :=
  (List.mem_filter.1 (List.mem_of_getLast? last)).2

/-- The last of the elements that are made of others is made of the last one to make such. -/
theorem lastOf_filterMap (p : β → Bool) (make : α → Option β) (changes : List α) :
    lastOf p (changes.filterMap make) =
      (lastOf (fun a => (make a).any p) changes).bind make := by
  induction changes with
  | nil => rfl
  | cons a changes ih =>
    rw [lastOf_cons]
    cases last : lastOf (fun a => (make a).any p) changes with
    | none =>
      rw [last] at ih
      cases made : make a with
      | none => rw [List.filterMap_cons_none made, ih]; simp
      | some b =>
        rw [List.filterMap_cons_some made, lastOf_cons, ih]
        cases holds : p b <;> simp [holds, made]
    | some c =>
      have makes : ∃ b, make c = some b := by
        have holds := of_lastOf last
        cases made : make c with
        | none => rw [made] at holds; cases holds
        | some b => exact ⟨b, rfl⟩
      obtain ⟨b, made⟩ := makes
      rw [last, Option.bind_some, made] at ih
      cases first : make a with
      | none => rw [List.filterMap_cons_none first, ih]; simp [made]
      | some b' => rw [List.filterMap_cons_some first, lastOf_cons, ih]; simp [made]

end ClaExemption.Keyed
