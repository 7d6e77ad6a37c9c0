import ClaExemption.Proofs.Json.Reading
import ClaExemption.Proofs.Json.Sequence

/-!
# Decoders that invert encoders

A decoder inverts an encoder if it takes the tree of each value encoded back to
that value (`Decoder.Inverts`); then it does so with the text of the value
(`Inverts.decodeDocument_render`). There is one lemma for each kind of decoder.
A record is decoded from an object that has its fields in order, perhaps without
some that are not required (`Fills.decode_ofOptions`).
-/

namespace ClaExemption.Json

variable {α β : Type}

/-- A decoder takes the tree of what an encoder makes of a value back to the value. -/
def Decoder.Inverts (d : Decoder α) (encode : α → Value) : Prop :=
  ∀ origin x, d origin (encode x).node = .ok x

namespace Decoder

variable {d : Decoder α} {encode : α → Value}

/-- The text of a value decodes as the value. -/
theorem Inverts.decodeDocument_render (h : d.Inverts encode) (x : α) :
    decodeDocument d (encode x).render = .ok x := by
  rw [decodeDocument, decodeText_eq_ok_iff, Node.read_render]
  exact ⟨rfl, h .text x⟩

theorem inverts_text : decodeString.Inverts .text := fun _ _ => rfl

theorem inverts_bool : decodeBool.Inverts .bool := fun _ _ => rfl

theorem inverts_uint64 : decodeUInt64.Inverts fun n => .int n.toNat := fun origin n => by
  rw [Value.node, Numeral.ofInt_natCast n.toNat_lt_size, UInt64.ofNat_toNat]
  rfl

theorem inverts_int64 : decodeInt64.Inverts fun n => .int n.toInt := fun origin n => by
  have least := n.le_toInt
  have greatest := n.toInt_lt
  rw [Value.node]
  by_cases neg : n.toInt < 0
  · rw [Numeral.ofInt_negative neg least, Int64.ofInt_toInt]
    rfl
  · obtain ⟨k, e⟩ := Int.eq_ofNat_of_zero_le (Int.not_lt.1 neg)
    have small : k < 0x8000000000000000 := by omega
    have fits : k < UInt64.size := Nat.lt_trans small (by decide)
    rw [e, Numeral.ofInt_natCast fits]
    show (if (UInt64.ofNat k).toNat < 0x8000000000000000
      then Except.ok (Int64.ofNat (UInt64.ofNat k).toNat) else _) = _
    rw [UInt64.toNat_ofNat_of_lt' fits, if_pos small]
    exact congrArg _ (Int64.toInt_inj.1 ((Int64.toInt_ofNat_of_lt small).trans e.symm))

theorem Inverts.list (h : d.Inverts encode) :
    (decodeList d).Inverts fun items => .array (items.map encode) := fun origin items => by
  refine decodeList_eq_ok_iff.2 ⟨_, rfl, ?_⟩
  rw [Value.nodesOfItems_eq_map, List.map_map, List.forall₂_map_left_iff, List.forall₂_same]
  exact fun x _ => h origin x

/-- What is absent is written as `null`, which is the tree of nothing else. -/
theorem Inverts.option (h : d.Inverts encode) (solid : ∀ x, (encode x).node ≠ .null) :
    (decodeOption d).Inverts fun x => (x.map encode).getD .null := fun origin x => by
  cases x with
  | none => rfl
  | some x =>
    show decodeOption d origin (encode x).node = _
    unfold decodeOption
    split
    · next null => exact absurd null (solid x)
    · rw [h origin x]
      rfl

/-- The members of a map are decoded in their order. -/
theorem Inverts.map (h : d.Inverts encode) :
    (decodeMap d).Inverts fun entries => .object (entries.map fun (k, x) => (k, encode x)) :=
  fun origin entries => by
    show decodeMembers d origin none (Value.nodesOfMembers _) = _
    induction entries with
    | nil => rfl
    | cons entry entries ih =>
      obtain ⟨k, x⟩ := entry
      rw [List.map_cons, Value.nodesOfMembers, decodeMembers, h origin x, ih]
      rfl

/-- A choice is decoded from its name. -/
theorem inverts_choice {choices : List (String × α)} {name : α → String}
    (named : ∀ x, choose choices (name x) = .ok x) :
    (decodeChoice choices).Inverts fun x => .text (name x) :=
  fun origin x => by
    cases origin <;> exact named x

end Decoder

/-! ## Records -/

variable {origin : Origin}

/-- The members of an object with the trees of those that are present. -/
def presentNodes (members : List (String × Option Value)) : List (Except Fault String × Node) :=
  members.filterMap fun (name, value) => value.map fun value => (.ok name, value.node)

theorem node_ofOptions (members : List (String × Option Value)) :
    (Value.ofOptions members).node = .object (presentNodes members) none := by
  rw [Value.ofOptions, Value.node, Value.nodesOfMembers_eq_map, List.map_filterMap, presentNodes]
  congr 2
  funext member
  rw [Option.map_map]
  rfl

/-- Members that are the fields of a record in order, by which one value is filled up to another.
Fields that are not required may be absent. -/
inductive Fills (origin : Origin) :
    List (Field α) → List (String × Option Value) → α → α → Prop
  | nil {a : α} : Fills origin [] [] a a
  | absent {field : Field α} {fields : List (Field α)} {members : List (String × Option Value)}
    {a b : α} : field.required = false → Fills origin fields members a b →
    Fills origin (field :: fields) ((field.name, none) :: members) a b
  | present {field : Field α} {fields : List (Field α)} {v : Value}
    {members : List (String × Option Value)} {a a' b : α} : field.read origin v.node a = .ok a' →
    Fills origin fields members a' b →
    Fills origin (field :: fields) ((field.name, some v) :: members) a b

/-- The names seen are those of fields already passed, among them all that are required. -/
structure Passed (passed : List (Field α)) (seen : List String) : Prop where
  named : ∀ name ∈ seen, name ∈ passed.map (·.name)
  required : ∀ field ∈ passed, field.required = true → field.name ∈ seen

namespace Passed

variable {passed : List (Field α)} {seen : List String}

theorem nil : Passed ([] : List (Field α)) [] := ⟨nofun, nofun⟩

theorem absent (h : Passed passed seen) {field : Field α} (optional : field.required = false) :
    Passed (passed ++ [field]) seen := by
  refine ⟨fun name mem => ?_, fun f mem required => ?_⟩
  · rw [List.map_append]
    exact List.mem_append_left _ (h.named name mem)
  · rcases List.mem_append.1 mem with mem | mem
    · exact h.required f mem required
    · rw [List.mem_singleton.1 mem, optional] at required
      cases required

theorem present (h : Passed passed seen) (field : Field α) :
    Passed (passed ++ [field]) (field.name :: seen) := by
  refine ⟨fun name mem => ?_, fun f mem required => ?_⟩
  · rw [List.map_append, List.mem_append]
    exact (List.mem_cons.1 mem).elim (fun e => .inr (e ▸ List.mem_singleton_self _))
      fun mem => .inl (h.named name mem)
  · rcases List.mem_append.1 mem with mem | mem
    · exact List.mem_cons_of_mem _ (h.required f mem required)
    · rw [List.mem_singleton.1 mem]
      exact List.mem_cons_self

theorem complete_eq (h : Passed passed seen) (a : α) :
    Record.complete passed seen a = .ok a := by
  have none : passed.find? (fun f => f.required && !seen.contains f.name) = none := by
    refine List.find?_eq_none.2 fun f mem => ?_
    cases required : f.required with
    | false => exact Bool.false_ne_true
    | true => simp [h.required f mem required]
  rw [Record.complete, none]

end Passed

/-- Members that fill a record are read from the fields passed on to the end. -/
theorem Fills.readMembers {fields passed : List (Field α)} {members : List (String × Option Value)}
    {seen : List String} {a b : α} (h : Fills origin fields members a b)
    (hp : Passed passed seen) (distinct : ((passed ++ fields).map (·.name)).Nodup) :
    Record.readMembers (passed ++ fields) origin none seen a (presentNodes members) = .ok b := by
  -- The reader looks each name up among all fields, so those passed have to be kept.
  induction h generalizing passed seen with
  | @nil a =>
    rw [List.append_nil]
    exact hp.complete_eq a
  | @absent field fields members a b optional h ih =>
    rw [List.append_cons] at distinct ⊢
    exact ih (hp.absent optional) distinct
  | @present field fields v members a a' b read h ih =>
    have new : field.name ∉ passed.map (·.name) := fun mem => by
      rw [List.map_append, List.nodup_append] at distinct
      exact distinct.2.2 _ mem _ List.mem_cons_self rfl
    have found : (passed ++ field :: fields).find? (·.name == field.name) = some field := by
      refine List.find?_eq_some_iff_append.2 ⟨beq_self_eq_true _, passed, fields, rfl, ?_⟩
      intro f mem
      rw [Bool.not_eq_true', beq_eq_false_iff_ne]
      exact fun e => new (e ▸ List.mem_map_of_mem mem)
    have unseen : seen.contains field.name = false := by
      rw [List.contains_eq_mem, decide_eq_false_iff_not]
      exact fun mem => new (hp.named _ mem)
    show Record.readMembers _ origin none seen a
      ((.ok field.name, v.node) :: presentNodes members) = _
    rw [Record.readMembers, found]
    dsimp only
    rw [unseen, if_neg Bool.false_ne_true, read]
    rw [List.append_cons] at distinct ⊢
    exact ih (hp.present field) distinct

/-- An object whose members fill a record decodes as it. -/
theorem Fills.decode_ofOptions {r : Record α} {members : List (String × Option Value)} {b : α}
    (distinct : (r.fields.map (·.name)).Nodup)
    (h : Fills origin r.fields members r.initial b) :
    r.decode origin (Value.ofOptions members).node = .ok b := by
  have read := h.readMembers .nil distinct
  rw [node_ofOptions]
  exact read

theorem ofOptions_map_some (members : List (String × Value)) :
    Value.ofOptions (members.map fun (name, value) => (name, some value)) = .object members := by
  rw [Value.ofOptions, List.filterMap_map]
  exact congrArg _ List.filterMap_some

/-- An object that has all fields of a record in order decodes as it. -/
theorem Fills.decode_object {r : Record α} {members : List (String × Value)} {b : α}
    (distinct : (r.fields.map (·.name)).Nodup)
    (h : Fills origin r.fields (members.map fun (name, value) => (name, some value)) r.initial b) :
    r.decode origin (Value.object members).node = .ok b := by
  rw [← ofOptions_map_some]
  exact h.decode_ofOptions distinct

variable {d : Decoder β} {encode : β → Value} {name : String} {required : Bool}
  {set : α → β → α} {fields : List (Field α)} {members : List (String × Option Value)} {a b : α}

/-- A field that is always written. -/
theorem Fills.of (h : d.Inverts encode) (x : β) (rest : Fills origin fields members (set a x) b) :
    Fills origin (.of name required d set :: fields) ((name, some (encode x)) :: members) a b := by
  refine .present ?_ rest
  show (d origin (encode x).node).map (set a) = _
  rw [h origin x]
  rfl

/-- A field that is left out if its value is absent, as it is to begin with. -/
theorem Fills.ofOption {set : α → Option β → α} (h : d.Inverts encode)
    (solid : ∀ x, (encode x).node ≠ .null) (x : Option β) (unset : set a none = a)
    (rest : Fills origin fields members (set a x) b) :
    Fills origin (.of name false (decodeOption d) set :: fields)
      ((name, x.map encode) :: members) a b := by
  cases x with
  | none =>
    rw [unset] at rest
    exact .absent rfl rest
  | some x => exact .of (h.option solid) (some x) rest

end ClaExemption.Json
