import ClaExemption.Proofs.Keyed.Basic
import ClaExemption.Setting.Path

/-!
# Places in combined settings

A place is a part of a group of settings: an entry of the group's table, or an
item if the group is a list. Settings that lead to other places leave it as it
is (`named?_set_of_apart`), and one that leads to it is what stands there then
(`named?_set_path`). So, over earlier settings, the last one for a place counts,
and otherwise the place is left as it was (`at?_layer`), but for one thing: a
group that is a list is lost when a setting is put into it by name.
-/

namespace ClaExemption

open Keyed (lastOf lastOf_cons)

/-- Where a part of a group of settings stands: under its name, or at its index if the group is a
list. -/
structure Place where
  group : String
  name : String
  index : Nat

namespace Setting

/-! ## Entries -/

theorem lookup_updateKey_self (key : String) (f : Setting → Setting)
    (entries : List (String × Setting)) :
    (updateKey key f entries).lookup key = some (f ((entries.lookup key).getD .nothing)) := by
  induction entries with
  | nil => simp [updateKey]
  | cons entry entries ih =>
    obtain ⟨k, v⟩ := entry
    by_cases same : k = key
    · simp [updateKey, same]
    · have skipped : (key == k) = false := beq_eq_false_iff_ne.2 (Ne.symm same)
      rw [updateKey, if_neg same, List.lookup_cons, skipped, List.lookup_cons, skipped]
      exact ih

theorem lookup_updateKey_of_ne {k key : String} (ne : k ≠ key) (f : Setting → Setting)
    (entries : List (String × Setting)) :
    (updateKey key f entries).lookup k = entries.lookup k := by
  induction entries with
  | nil => simp [updateKey, ne]
  | cons entry entries ih =>
    obtain ⟨k', v⟩ := entry
    by_cases same : k' = key
    · have skipped : (k == k') = false := beq_eq_false_iff_ne.2 (same ▸ ne)
      rw [updateKey, if_pos same, List.lookup_cons, skipped, List.lookup_cons, skipped]
    · rw [updateKey, if_neg same, List.lookup_cons, List.lookup_cons, ih]

/-! ## Places -/

/-- What a setting says under a name, or in a list at an index. -/
def part? (name : String) (index : Nat) : Setting → Option Setting
  | .table entries => entries.lookup name
  | .list items => items[index]?
  | _ => none

/-- What stands at a place. -/
def at? (s : Setting) (p : Place) : Option Setting :=
  (s.entries.lookup p.group).bind (part? p.name p.index)

/-- What stands at a place of a group that is a table. -/
def named? (s : Setting) (p : Place) : Option Setting :=
  (s.entries.lookup p.group).bind fun group => group.entries.lookup p.name

/-- Whether the group of a place is a list. -/
def isListed (s : Setting) (p : Place) : Bool :=
  match s.entries.lookup p.group with
  | some (.list _) => true
  | _ => false

variable {s : Setting} {p : Place}

theorem at?_of_not_isListed (table : s.isListed p = false) : s.at? p = s.named? p := by
  unfold at? named?
  unfold isListed at table
  cases found : s.entries.lookup p.group with
  | none => rfl
  | some group =>
    rw [found] at table
    cases group with
    | list items => cases table
    | _ => rfl

theorem named?_of_isListed (list : s.isListed p = true) : s.named? p = none := by
  unfold named?
  unfold isListed at list
  split at list
  · next found => rw [found]; rfl
  · cases list

end Setting

/-- The path to a place by its name. -/
def Place.path (p : Place) : List PathStep := [.key p.group, .key p.name]

/-- Whether a path leads into the group of a place. -/
def Place.isEntered (p : Place) (path : List PathStep) : Bool := path.head? = some (.key p.group)

/-- A path leads to a place of another group, or to another entry of the same one. -/
def Place.Apart (p : Place) : List PathStep → Prop
  | .key group :: .key name :: _ => group ≠ p.group ∨ name ≠ p.name
  | .key group :: _ => group ≠ p.group
  | _ => False

namespace Setting

variable {s : Setting} {p : Place} {path : List PathStep} {v : Setting}

/-! ## One more setting -/

/-- A setting that does not lead into a group leaves all of it. -/
theorem lookup_set_of_not_isEntered {g : String} (ne : p.group ≠ g) :
    (s.set (.key g :: path) v).entries.lookup p.group = s.entries.lookup p.group :=
  lookup_updateKey_of_ne ne _ _

theorem lookup_set_of_isEntered (s v : Setting) (p : Place) (path : List PathStep) :
    (s.set (.key p.group :: path) v).entries.lookup p.group =
      some (modify v.overlay path ((s.entries.lookup p.group).getD .nothing)) :=
  lookup_updateKey_self _ _ _

/-- A group into which a setting is put by name is a table then. -/
theorem lookup_set_of_named (s v : Setting) (p : Place) (name : String) (path : List PathStep) :
    (s.set (.key p.group :: .key name :: path) v).entries.lookup p.group =
      some (.table (updateKey name (modify v.overlay path)
        ((s.entries.lookup p.group).getD .nothing).entries)) :=
  lookup_set_of_isEntered s v p (.key name :: path)

theorem lookup_entries_getD (s : Setting) (p : Place) :
    ((s.entries.lookup p.group).getD .nothing).entries.lookup p.name = s.named? p := by
  unfold named?
  cases s.entries.lookup p.group <;> rfl

theorem named?_set_of_apart (apart : p.Apart path) : (s.set path v).named? p = s.named? p := by
  match path, apart with
  | .key g :: .key name :: path, apart =>
    by_cases same : g = p.group
    · subst same
      have other : name ≠ p.name := apart.resolve_left (not_not_intro rfl)
      rw [named?, lookup_set_of_named, Option.bind_some]
      exact (lookup_updateKey_of_ne other.symm _ _).trans (lookup_entries_getD s p)
    · rw [named?, lookup_set_of_not_isEntered (Ne.symm same), named?]
  | [.key g], apart =>
    rw [named?, lookup_set_of_not_isEntered (Ne.symm apart), named?]
  | .key g :: .index i :: path, apart =>
    rw [named?, lookup_set_of_not_isEntered (Ne.symm apart), named?]

theorem named?_set_path (s v : Setting) (p : Place) :
    (s.set p.path v).named? p = some (v.overlay ((s.named? p).getD .nothing)) := by
  rw [named?, Place.path, lookup_set_of_named, Option.bind_some]
  exact (lookup_updateKey_self _ _ _).trans (by rw [lookup_entries_getD]; rfl)

theorem isListed_set_of_ne {g : String} (ne : g ≠ p.group) :
    (s.set (.key g :: path) v).isListed p = (s.isListed p && !p.isEntered (.key g :: path)) := by
  rw [isListed, lookup_set_of_not_isEntered (Ne.symm ne), ← isListed]
  simp [Place.isEntered, ne]

/-- A setting leaves a group a list only if it does not lead into it. -/
theorem isListed_set (alone : path = p.path ∨ p.Apart path) :
    (s.set path v).isListed p = (s.isListed p && !p.isEntered path) := by
  rcases alone with rfl | apart
  · rw [isListed, Place.path, lookup_set_of_named]
    simp [Place.isEntered]
  · match path, apart with
    | .key g :: .key name :: path, apart =>
      by_cases same : g = p.group
      · subst same
        rw [isListed, lookup_set_of_named]
        simp [Place.isEntered]
      · exact isListed_set_of_ne same
    | [.key g], apart => exact isListed_set_of_ne apart
    | .key g :: .index i :: path, apart => exact isListed_set_of_ne apart

end Setting

/-! ## A source over earlier ones -/

variable {source : List (String × Setting)} {s : Setting} {p : Place}

/-- The settings of a source lead to the place or to other ones, but neither to its group as a whole
nor into the place. -/
def Place.Alone (p : Place) (source : List (String × Setting)) : Prop :=
  ∀ e ∈ source, pathOf e.1 = p.path ∨ p.Apart (pathOf e.1)

/-- The last setting of a source that leads to a place. -/
def Place.last? (p : Place) (source : List (String × Setting)) : Option Setting :=
  (lastOf (fun e => decide (pathOf e.1 = p.path)) source).map (·.2)

/-- Whether a setting of a source leads into the group of a place. -/
def Place.isReached (p : Place) (source : List (String × Setting)) : Bool :=
  source.any fun e => p.isEntered (pathOf e.1)

/-- What counts at a place: the last setting of a source for it, otherwise what stood there before,
unless the group was a list into which the source puts something by name. -/
def Place.given (p : Place) (below : Setting) (source : List (String × Setting)) : Option Setting :=
  (p.last? source).or (if below.isListed p && p.isReached source then none else below.at? p)

theorem Place.last?_of_not_isReached (h : p.isReached source = false) : p.last? source = none := by
  have noneLeads : source.filter (fun e => decide (pathOf e.1 = p.path)) = [] := by
    refine List.filter_eq_nil_iff.2 fun e mem leads => List.any_eq_false.1 h e mem ?_
    rw [of_decide_eq_true leads]
    exact decide_eq_true rfl
  rw [last?, lastOf, noneLeads]
  rfl

/-- A path begins with a name. -/
theorem exists_pathOf_eq_cons (key : String) :
    ∃ name steps, pathOf key = .key name :: steps := by
  unfold pathOf path?
  cases readName key.toList with
  | none => exact ⟨key, [], rfl⟩
  | some read =>
    obtain ⟨name, rest⟩ := read
    show ∃ name' steps, (((readSteps rest.length rest).bind fun steps =>
      some (.key name :: steps)).getD [.key key]) = .key name' :: steps
    cases readSteps rest.length rest with
    | none => exact ⟨key, [], rfl⟩
    | some steps => exact ⟨name, steps, rfl⟩

/-- Nothing but the last setting for a place changes what its group says by its name. -/
theorem named?_layer (alone : p.Alone source)
    (solid : ∀ e ∈ source, pathOf e.1 = p.path → ∀ below, e.2.overlay below = e.2) :
    (layer s source).named? p = (p.last? source).or (s.named? p) := by
  induction source generalizing s with
  | nil => rfl
  | cons e source ih =>
    obtain ⟨first, others⟩ := List.forall_mem_cons.1 alone
    obtain ⟨firstSolid, othersSolid⟩ := List.forall_mem_cons.1 solid
    show (layer (s.set (pathOf e.1) e.2) source).named? p = _
    rw [ih others othersSolid, Place.last?, Place.last?, lastOf_cons]
    by_cases leads : pathOf e.1 = p.path
    · rw [if_pos (decide_eq_true leads), leads, Setting.named?_set_path, firstSolid leads]
      cases lastOf (fun e => decide (pathOf e.1 = p.path)) source <;> rfl
    · rw [if_neg (by simpa using leads), Setting.named?_set_of_apart (first.resolve_left leads),
        Option.or_none]

theorem isListed_layer (alone : p.Alone source) :
    (layer s source).isListed p = (s.isListed p && !p.isReached source) := by
  induction source generalizing s with
  | nil => simp [layer, Place.isReached]
  | cons e source ih =>
    obtain ⟨first, others⟩ := List.forall_mem_cons.1 alone
    show (layer (s.set (pathOf e.1) e.2) source).isListed p = _
    rw [ih others, Setting.isListed_set first, Place.isReached, Place.isReached, List.any_cons,
      Bool.not_or, Bool.and_assoc]

theorem at?_layer_of_not_isReached (h : p.isReached source = false) :
    (layer s source).at? p = s.at? p := by
  induction source generalizing s with
  | nil => rfl
  | cons e source ih =>
    rw [Place.isReached, List.any_cons, Bool.or_eq_false_iff] at h
    obtain ⟨name, steps, path⟩ := exists_pathOf_eq_cons e.1
    have outside : p.group ≠ name := fun same => by
      rw [path, Place.isEntered, same] at h
      exact absurd h.1 (by simp)
    show (layer (s.set (pathOf e.1) e.2) source).at? p = _
    rw [ih h.2, path, Setting.at?, Setting.lookup_set_of_not_isEntered outside, Setting.at?]

/-- What stands at a place after a source is what counts there. -/
theorem at?_layer (alone : p.Alone source)
    (solid : ∀ e ∈ source, pathOf e.1 = p.path → ∀ below, e.2.overlay below = e.2) :
    (layer s source).at? p = p.given s source := by
  cases reached : p.isReached source with
  | false =>
    rw [at?_layer_of_not_isReached reached, Place.given, p.last?_of_not_isReached reached,
      reached, Bool.and_false]
    rfl
  | true =>
    rw [Setting.at?_of_not_isListed (by rw [isListed_layer alone, reached]; simp),
      named?_layer alone solid, Place.given, reached, Bool.and_true]
    cases listed : s.isListed p with
    | true => rw [Setting.named?_of_isListed listed, if_pos rfl]
    | false => rw [Setting.at?_of_not_isListed listed, if_neg Bool.false_ne_true]

end ClaExemption
