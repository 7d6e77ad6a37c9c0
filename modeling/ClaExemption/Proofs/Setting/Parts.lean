import ClaExemption.Proofs.Setting.Places
import ClaExemption.Setting.Convert

/-!
# Records that settings give

A record is read part by part, from a table by names or from a list in order
(`readParts_eq_some`). If each part is put into a field of its own, then each
field of the record is read from what is given for its part, and stays as it was
if nothing is (`readFrom_cons_of`, and `readFrom_cons` for the other direction).
-/

namespace ClaExemption.Setting

variable {α β : Type}

/-- A value is read from what is given for it; it is the default one if nothing is given. -/
def Reads (convert : Setting → Option β) (default : β) : Option Setting → β → Prop
  | some s, x => convert s = some x
  | none, x => x = default

theorem Reads.unique {convert : Setting → Option β} {default x y : β} {given : Option Setting}
    (h : Reads convert default given x) (h' : Reads convert default given y) : x = y := by
  cases given with
  | none => exact Eq.trans h (Eq.symm h')
  | some s => exact Option.some.inj (Eq.trans (Eq.symm h) h')

/-- Reads a part from what is given for it. -/
def Part.fill (part : Part α) (record : α) : Option Setting → Option α
  | some s => part.read s record
  | none => some record

/-- Reads the parts from a given index on. -/
def readFrom (given : Nat → String → Option Setting) : Nat → List (Part α) → α → Option α
  | _, [], record => some record
  | i, part :: parts, record =>
    (part.fill record (given i part.name)).bind (readFrom given (i + 1) parts)

theorem readParts_table (parts : List (Part α)) (entries : List (String × Setting)) (i : Nat)
    (record : α) :
    readParts parts record (.table entries) =
      readFrom (fun _ name => entries.lookup name) i parts record := by
  rw [readParts]
  induction parts generalizing i record with
  | nil => rfl
  | cons part parts ih =>
    rw [List.foldlM_cons, readFrom]
    cases entries.lookup part.name with
    | none => exact ih (i + 1) record
    | some s =>
      show (part.read s record).bind _ = (part.read s record).bind _
      congr 1
      exact funext (ih (i + 1))

theorem readParts_list (parts : List (Part α)) (items : List Setting) (i : Nat) (record : α) :
    readParts parts record (.list (items.drop i)) =
      readFrom (fun i _ => items[i]?) i parts record := by
  rw [readParts]
  induction parts generalizing i record with
  | nil => rfl
  | cons part parts ih =>
    rw [readFrom]
    cases found : items[i]? with
    | none =>
      have short := List.getElem?_eq_none_iff.1 found
      have empty := ih (i + 1) record
      rw [List.drop_eq_nil_of_le (Nat.le_succ_of_le short), List.zip_nil_right] at empty
      rw [List.drop_eq_nil_of_le short, List.zip_nil_right]
      exact empty
    | some s =>
      obtain ⟨h, rfl⟩ := List.getElem?_eq_some_iff.1 found
      rw [List.drop_eq_getElem_cons h, List.zip_cons_cons, List.foldlM_cons]
      show (part.read _ record).bind _ = (part.read _ record).bind _
      congr 1
      exact funext (ih (i + 1))

/-- Whatever a record is read from, each part is read from what is said for it. -/
theorem readParts_eq_some {parts : List (Part α)} {record result : α} {s : Setting}
    (h : readParts parts record s = some result) :
    readFrom (fun i name => s.part? name i) 0 parts record = some result := by
  match s, h with
  | .table entries, h => exact (readParts_table parts entries 0 record).symm.trans h
  | .list items, h => exact (readParts_list parts items 0 record).symm.trans h

/-- A setting that says something for some part is what a record can be read from. -/
theorem readParts_of_part? {s v : Setting} {name : String} {i : Nat}
    (said : s.part? name i = some v) (parts : List (Part α)) (record : α) :
    readParts parts record s = readFrom (fun i name => s.part? name i) 0 parts record := by
  match s, said with
  | .table entries, _ => exact readParts_table parts entries 0 record
  | .list items, _ => exact readParts_list parts items 0 record

theorem readFrom_none (i : Nat) (parts : List (Part α)) (record : α) :
    readFrom (fun _ _ => none) i parts record = some record := by
  induction parts generalizing i with
  | nil => rfl
  | cons part parts ih => exact ih (i + 1)

/-- A record that may be given as a whole: its parts are read from what is said for them there. -/
theorem readFrom_of_reads {parts : List (Part α)} {default record : α} {given : Option Setting}
    (h : Reads (readParts parts default) default given record) :
    readFrom (fun i name => given.bind (part? name i)) 0 parts default = some record := by
  cases given with
  | none => exact h ▸ readFrom_none 0 parts default
  | some s => exact readParts_eq_some h

/-- A part that is put into a field of its own. -/
theorem readFrom_cons_of {given : Nat → String → Option Setting} {i : Nat} {name : String}
    {convert : Setting → Option β} {put : α → β → α} {parts : List (Part α)} {record result : α}
    (get : α → β) (unchanged : put record (get record) = record)
    (h : readFrom given i (.of name convert put :: parts) record = some result) :
    ∃ x, Reads convert (get record) (given i name) x ∧
      readFrom given (i + 1) parts (put record x) = some result := by
  obtain ⟨filled, first, rest⟩ := Option.bind_eq_some_iff.1 h
  cases said : given i name with
  | none =>
    rw [show (Part.of name convert put).name = name from rfl, said] at first
    cases first
    exact ⟨get record, rfl, unchanged.symm ▸ rest⟩
  | some s =>
    rw [show (Part.of name convert put).name = name from rfl, said] at first
    obtain ⟨x, converted, rfl⟩ := Option.map_eq_some_iff.1 first
    exact ⟨x, converted, rest⟩

/-- A part is read if what is given for it is, and the further parts after it. -/
theorem readFrom_cons {given : Nat → String → Option Setting} {i : Nat} {name : String}
    {convert : Setting → Option β} {put : α → β → α} {parts : List (Part α)} {record result : α}
    {x : β} (get : α → β) (unchanged : put record (get record) = record)
    (first : Reads convert (get record) (given i name) x)
    (rest : readFrom given (i + 1) parts (put record x) = some result) :
    readFrom given i (.of name convert put :: parts) record = some result := by
  rw [readFrom, show (Part.of name convert put).name = name from rfl]
  cases said : given i name with
  | none =>
    rw [said] at first
    cases first
    rw [unchanged] at rest
    exact rest
  | some s =>
    rw [said] at first
    exact (congrArg (Option.bind · _) (Option.map_eq_some_iff.2 ⟨x, first, rfl⟩)).trans rest

end ClaExemption.Setting
