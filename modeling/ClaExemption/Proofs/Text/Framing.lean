import ClaExemption.Text.Split
import Mathlib.Data.List.Basic

/-!
# What it means to cut a stream after a separator

`Pieces sep s pieces` says that `pieces` are the parts of `s` that end with a
copy of `sep`, and what follows the last copy, unless that is empty. A list is
cut in one way only (`Pieces.unique`), `splitAfter` finds it
(`pieces_splitAfter`), and pieces that each end with their one separator are
those of their concatenation (`pieces_flatten`).
-/

namespace ClaExemption.Text

variable {α : Type}

/-- The parts of a list, each of which ends with the only separator it holds; the last part may
lack it, but is not empty. -/
inductive Pieces (sep : α) : List α → List (List α) → Prop
  | nil : Pieces sep [] []
  | last {p : List α} : p ≠ [] → sep ∉ p → Pieces sep p [p]
  | next {p s : List α} {pieces : List (List α)} :
    sep ∉ p → Pieces sep s pieces → Pieces sep (p ++ sep :: s) ((p ++ [sep]) :: pieces)

variable {sep : α} {s t : List α} {pieces pieces' : List (List α)}

/-- What stands before a first copy is the same for two ways to look at a list. -/
theorem append_cons_inj {p q : List α} (hp : sep ∉ p) (hq : sep ∉ q)
    (h : p ++ sep :: s = q ++ sep :: t) : p = q ∧ s = t := by
  induction p generalizing q with
  | nil =>
    cases q with
    | nil => exact ⟨rfl, (List.cons.inj h).2⟩
    | cons b q => exact absurd ((List.cons.inj h).1 ▸ List.mem_cons_self) hq
  | cons a p ih =>
    cases q with
    | nil => exact absurd ((List.cons.inj h).1 ▸ List.mem_cons_self) hp
    | cons b q =>
      obtain ⟨rfl, rest⟩ := List.cons.inj h
      obtain ⟨rfl, rfl⟩ := ih (fun m => hp (List.mem_cons_of_mem _ m))
        (fun m => hq (List.mem_cons_of_mem _ m)) rest
      exact ⟨rfl, rfl⟩

/-- A list is cut in one way only. -/
theorem Pieces.unique (h : Pieces sep s pieces) (h' : Pieces sep s pieces') : pieces = pieces' := by
  have held {p s : List α} : sep ∈ p ++ sep :: s := List.mem_append_right _ List.mem_cons_self
  induction h generalizing pieces' with
  | nil =>
    generalize e : [] = t at h'
    cases h' with
    | nil => rfl
    | last ne => exact absurd e.symm ne
    | next => exact absurd e.symm (List.append_ne_nil_of_right_ne_nil _ (List.cons_ne_nil _ _))
  | @last p ne hp =>
    generalize e : p = t at h'
    cases h' with
    | nil => exact absurd e ne
    | last => rfl
    | next => exact absurd (e ▸ held) hp
  | @next p s pieces hp _ ih =>
    generalize e : p ++ sep :: s = t at h'
    cases h' with
    | nil => exact absurd e (List.append_ne_nil_of_right_ne_nil _ (List.cons_ne_nil _ _))
    | last _ ht => exact absurd (e ▸ held) ht
    | next hq hs =>
      obtain ⟨rfl, rfl⟩ := append_cons_inj hp hq e
      rw [ih hs]

/-- The pieces of what is put after a list that ends with the separator follow its own pieces. -/
theorem Pieces.append (h : Pieces sep s pieces) (h' : Pieces sep t pieces')
    (ends : s = [] ∨ s.getLast? = some sep) : Pieces sep (s ++ t) (pieces ++ pieces') := by
  induction h with
  | nil => exact h'
  | last ne hp =>
    have last := ends.resolve_left ne
    exact absurd (List.mem_of_getLast? last) hp
  | @next p s pieces hp _ ih =>
    rw [List.append_assoc, List.cons_append, List.cons_append]
    refine .next hp (ih ?_)
    cases s with
    | nil => exact .inl rfl
    | cons a s =>
      rw [List.getLast?_append_cons, List.getLast?_cons_cons] at ends
      exact .inr (ends.resolve_left (List.append_ne_nil_of_right_ne_nil _ (List.cons_ne_nil _ _)))

/-- Pieces that each end with their one separator are those of their concatenation. -/
theorem pieces_flatten {lines : List (List α)} (h : ∀ line ∈ lines, sep ∉ line) :
    Pieces sep (lines.map (· ++ [sep])).flatten (lines.map (· ++ [sep])) := by
  induction lines with
  | nil => exact .nil
  | cons line lines ih =>
    rw [List.map_cons, List.flatten_cons, List.append_assoc, List.singleton_append]
    exact .next (h line List.mem_cons_self) (ih fun l hl => h l (List.mem_cons_of_mem _ hl))

variable [DecidableEq α]

/-- Cutting after each separator finds the pieces. -/
theorem pieces_splitAfter (sep : α) (s : List α) : Pieces sep s (splitAfter sep s) := by
  induction s with
  | nil => exact .nil
  | cons a s ih =>
    unfold splitAfter
    split
    · next h =>
      subst h
      exact .next (p := []) List.not_mem_nil ih
    · next h =>
      have ne : sep ≠ a := fun e => h e.symm
      generalize splitAfter sep s = pieces at ih
      cases ih with
      | nil => exact .last (List.cons_ne_nil _ _) (by simpa using ne)
      | last _ hs => exact .last (List.cons_ne_nil _ _) (List.not_mem_cons_of_ne_of_not_mem ne hs)
      | next hp hs => exact .next (List.not_mem_cons_of_ne_of_not_mem ne hp) hs

/-- Lists are cut apart where the first one ends with the separator. -/
theorem splitAfter_append (ends : s.getLast? = some sep) :
    splitAfter sep (s ++ t) = splitAfter sep s ++ splitAfter sep t :=
  (pieces_splitAfter sep _).unique
    ((pieces_splitAfter sep s).append (pieces_splitAfter sep t) (.inr ends))

end ClaExemption.Text
