import ClaExemption.Proofs.Json.Followed
import Mathlib.Data.List.Nodup
import Mathlib.Data.List.Pairwise

/-!
# Other texts for the same value

The members of a record may stand in any order, among members of other names,
and those that hold what a record has anyway may be left out. `MembersVary` is
this freedom for an object, by rules for the members of its record; with it and
with white space, one text is written over into another (`Rewritten`). A decoder
is blind to a variation if it makes the same of both trees (`Decoder.Blind`), and
then of both texts (`Decoder.Blind.decodeText_iff`). The main lemma is
`Record.Lenient.blind`: a record's decoder is, if its fields do not get into each
other's way.
-/

namespace ClaExemption.Json

variable {α β : Type}

/-! ## Variations -/

/-- How a member of a record may vary: its name, the variations of its value, and what may be
written for it if it is absent. -/
structure MemberRule where
  name : String
  vary : Node → Node → Prop
  default : Option Node := none

/-- A tree that some text spells. -/
def Node.IsGrammatical (t : Node) : Prop := ∃ s, t.IsSpelled s

/-- Members, in an object of a record, that may be written instead of others. -/
inductive MembersVary (rules : List MemberRule) :
    List (Except Fault String × Node) → List (Except Fault String × Node) → Prop
  | symm {ms ms' : List (Except Fault String × Node)} : MembersVary rules ms ms' →
    MembersVary rules ms' ms
  | trans {ms₁ ms₂ ms₃ : List (Except Fault String × Node)} : MembersVary rules ms₁ ms₂ →
    MembersVary rules ms₂ ms₃ → MembersVary rules ms₁ ms₃
  /-- The order is changed. -/
  | permute {ms ms' : List (Except Fault String × Node)} : ms.Perm ms' → MembersVary rules ms ms'
  /-- A member of another name is inserted. -/
  | insert {name : String} {value : Node} {ms : List (Except Fault String × Node)} :
    name ∉ rules.map (·.name) → value.IsGrammatical →
    MembersVary rules ms ((.ok name, value) :: ms)
  /-- An absent member is written with its default value. -/
  | spellOut {rule : MemberRule} {value : Node} {ms : List (Except Fault String × Node)} :
    rule ∈ rules → rule.default = some value → .ok rule.name ∉ ms.map (·.1) →
    MembersVary rules ms ((.ok rule.name, value) :: ms)
  /-- The value of a member varies. -/
  | inside {rule : MemberRule} {value value' : Node} {ms : List (Except Fault String × Node)} :
    rule ∈ rules → rule.vary value value' →
    MembersVary rules ((.ok rule.name, value) :: ms) ((.ok rule.name, value') :: ms)

/-- Items that may be written instead of others where a record is a sequence. -/
inductive ItemsVary : List MemberRule → List Node → List Node → Prop
  | nil {rules : List MemberRule} : ItemsVary rules [] []
  | cons {rule : MemberRule} {rules : List MemberRule} {item item' : Node}
    {items items' : List Node} : rule.vary item item' → ItemsVary rules items items' →
    ItemsVary (rule :: rules) (item :: items) (item' :: items')

/-- The variations of a record. -/
inductive RecordVaries (rules : List MemberRule) : Node → Node → Prop
  | same {t : Node} : RecordVaries rules t t
  | object {ms ms' : List (Except Fault String × Node)} : MembersVary rules ms ms' →
    RecordVaries rules (.object ms none) (.object ms' none)
  | array {items items' : List Node} : ItemsVary rules items items' →
    RecordVaries rules (.array items none) (.array items' none)

/-- The variations of a sequence, item by item. -/
inductive ListVaries (vary : Node → Node → Prop) : Node → Node → Prop
  | same {t : Node} : ListVaries vary t t
  | items {items items' : List Node} : List.Forall₂ vary items items' →
    ListVaries vary (.array items none) (.array items' none)

/-- One text is written over into another: they spell trees of which one varies the other, with
white space wherever it may stand. -/
def Rewritten (vary : Node → Node → Prop) (s s' : List Glyph) : Prop :=
  ∃ t t', t.IsSpelled s ∧ vary t t' ∧ t'.IsSpelled s'

/-! ## Decoders -/

variable {d : Decoder α} {vary : Node → Node → Prop}

/-- A decoder makes the same of a tree and of its variations. -/
def Decoder.Blind (d : Decoder α) (vary : Node → Node → Prop) : Prop :=
  ∀ ⦃t t' : Node⦄, vary t t' → ∀ x, d .text t = .ok x ↔ d .text t' = .ok x

/-- A field reads the same from a tree and from its variations. -/
def Field.Blind (f : Field α) (vary : Node → Node → Prop) : Prop :=
  ∀ ⦃t t' : Node⦄, vary t t' → ∀ a b, f.read .text t a = .ok b ↔ f.read .text t' a = .ok b

theorem Decoder.blind_eq (d : Decoder α) : d.Blind Eq := by
  rintro t _ rfl x
  exact Iff.rfl

theorem Decoder.Blind.list (blind : d.Blind vary) : (decodeList d).Blind (ListVaries vary) := by
  intro t t' varies values
  cases varies with
  | same => rfl
  | @items items items' varies =>
    show decodeItems d .text none 0 items = .ok values ↔
      decodeItems d .text none 0 items' = .ok values
    rw [decodeItems_eq_ok_iff, decodeItems_eq_ok_iff]
    refine and_congr Iff.rfl ?_
    induction varies generalizing values with
    | nil => rfl
    | cons first _ ih =>
      simp only [List.forall₂_cons_left_iff, ih, blind first]

/-- A decoder that also takes `null` is blind if that is not varied. -/
theorem Decoder.Blind.option (blind : d.Blind vary)
    (null : ∀ {t t' : Node}, vary t t' → (t = .null ↔ t' = .null)) :
    (decodeOption d).Blind vary := by
  intro t t' varies x
  by_cases absent : t = .null
  · rw [absent, (null varies).1 absent]
  · have present : ∀ {t : Node}, t ≠ .null →
        (decodeOption d .text t = .ok x ↔ ∃ y, d .text t = .ok y ∧ some y = x) := by
      intro t present
      unfold decodeOption
      split
      · exact absurd rfl present
      · cases d .text t <;> simp [Except.map]
    rw [present absent, present (mt (null varies).2 absent)]
    simp only [blind varies]

theorem Field.blind_of {name : String} {required : Bool} {d : Decoder β} {set : α → β → α}
    (blind : d.Blind vary) : (Field.of name required d set).Blind vary := by
  intro t t' varies a b
  have read : ∀ t : Node, (Field.of name required d set).read .text t a = .ok b ↔
      ∃ y, d .text t = .ok y ∧ set a y = b := by
    intro t
    show (d .text t).map (set a) = .ok b ↔ _
    cases d .text t <;> simp [Except.map]
  rw [read, read]
  simp only [blind varies]

/-! ## Records -/

/-- Two fields do not get into each other's way. -/
def Field.Commutes (f g : Field α) : Prop :=
  ∀ s t a b, (f.read .text s a >>= g.read .text t) = .ok b ↔
    (g.read .text t a >>= f.read .text s) = .ok b

instance : Std.Symm (Field.Commutes (α := α)) := ⟨fun _ _ h s t a b => (h t s a b).symm⟩

theorem Field.commutes_of {γ : Type} {name name' : String} {required required' : Bool}
    {d : Decoder β} {d' : Decoder γ} {set : α → β → α} {set' : α → γ → α}
    (apart : ∀ a x y, set' (set a x) y = set (set' a y) x) :
    (Field.of name required d set).Commutes (.of name' required' d' set') := by
  intro s t a b
  show ((d .text s).map (set a) >>= fun a => (d' .text t).map (set' a)) = .ok b ↔
    ((d' .text t).map (set' a) >>= fun a => (d .text s).map (set a)) = .ok b
  cases d .text s with
  | error e => cases d' .text t <;> exact ⟨nofun, nofun⟩
  | ok x =>
    cases d' .text t with
    | error e => exact ⟨nofun, nofun⟩
    | ok y =>
      show Except.ok (set' (set a x) y) = .ok b ↔ Except.ok (set (set' a y) x) = .ok b
      rw [apart]

/-- A rule is that of a field, which reads the default value as what the record has anyway. -/
structure Fits (initial : α) (rule : MemberRule) (field : Field α) : Prop where
  name_eq : field.name = rule.name
  blind : field.Blind rule.vary
  idle : ∀ value, rule.default = some value →
    field.required = false ∧ field.read .text value initial = .ok initial

section Fits

variable {initial : α} {name : String} {d : Decoder β} {set : α → β → α}

theorem fits_required (blind : d.Blind vary) :
    Fits initial ⟨name, vary, none⟩ (.of name true d set) :=
  ⟨rfl, Field.blind_of blind, nofun⟩

theorem fits_optional (blind : d.Blind vary) {value : Node}
    (idle : (d .text value).map (set initial) = .ok initial) :
    Fits initial ⟨name, vary, some value⟩ (.of name false d set) :=
  ⟨rfl, Field.blind_of blind, fun _ e => ⟨rfl, Option.some.inj e ▸ idle⟩⟩

end Fits

/-- A record whose fields have rules and do not get into each other's way. -/
structure Record.Lenient (r : Record α) (rules : List MemberRule) : Prop where
  fits : List.Forall₂ (Fits r.initial) rules r.fields
  distinct : (r.fields.map (·.name)).Nodup
  commute : r.fields.Pairwise Field.Commutes

/-- Members of an object are taken into a record, with the names already seen. -/
inductive Takes (fields : List (Field α)) :
    List String → α → List (Except Fault String × Node) → α → Prop
  | done {seen : List String} {a : α} : (∀ f ∈ fields, f.required = true → f.name ∈ seen) →
    Takes fields seen a [] a
  | skip {seen : List String} {a b : α} {name : String} {value : Node}
    {ms : List (Except Fault String × Node)} : fields.find? (·.name == name) = none →
    value.stop = none → Takes fields seen a ms b → Takes fields seen a ((.ok name, value) :: ms) b
  | take {seen : List String} {a a' b : α} {name : String} {value : Node} {field : Field α}
    {ms : List (Except Fault String × Node)} : fields.find? (·.name == name) = some field →
    name ∉ seen → field.read .text value a = .ok a' → Takes fields (name :: seen) a' ms b →
    Takes fields seen a ((.ok name, value) :: ms) b

variable {fields : List (Field α)} {seen seen' : List String} {a b : α}
  {ms ms' : List (Except Fault String × Node)}

theorem of_find? {name : String} {field : Field α}
    (found : fields.find? (·.name == name) = some field) : field ∈ fields ∧ field.name = name := by
  have named : (field.name == name) = true :=
    List.find?_some (p := fun f : Field α => f.name == name) found
  exact ⟨List.mem_of_find?_eq_some found, beq_iff_eq.1 named⟩

theorem complete_eq_ok_iff : Record.complete fields seen a = .ok b ↔
    a = b ∧ ∀ f ∈ fields, f.required = true → f.name ∈ seen := by
  unfold Record.complete
  split
  · next f missing =>
    refine ⟨nofun, fun ⟨_, all⟩ => ?_⟩
    have lacks := List.find?_some missing
    simp only [Bool.and_eq_true, Bool.not_eq_true', List.contains_eq_mem, decide_eq_false_iff_not]
      at lacks
    exact absurd (all f (List.mem_of_find?_eq_some missing) lacks.1) lacks.2
  · next none =>
    rw [Except.ok.injEq]
    refine ⟨fun e => ⟨e, fun f mem required => ?_⟩, And.left⟩
    have has := List.find?_eq_none.1 none f mem
    simpa [required] using has

theorem readMembers_eq_ok_iff :
    Record.readMembers fields .text none seen a ms = .ok b ↔ Takes fields seen a ms b := by
  induction ms generalizing seen a with
  | nil =>
    show Record.complete fields seen a = .ok b ↔ _
    rw [complete_eq_ok_iff]
    constructor
    · rintro ⟨rfl, all⟩
      exact .done all
    · intro h
      cases h with
      | done all => exact ⟨rfl, all⟩
  | cons m ms ih =>
    obtain ⟨name, value⟩ := m
    cases name with
    | error f => exact ⟨nofun, fun h => nomatch h⟩
    | ok name =>
      rw [Record.readMembers]
      cases found : fields.find? (·.name == name) with
      | none =>
        dsimp only
        constructor
        · intro h
          split at h
          · cases h
          · next whole => exact .skip found whole (ih.1 h)
        · intro h
          cases h with
          | skip _ whole rest => rw [whole]; exact ih.2 rest
          | take held => rw [found] at held; cases held
      | some field =>
        dsimp only
        constructor
        · intro h
          split at h
          · cases h
          · next unseen =>
            obtain ⟨a', read, rest⟩ := bind_eq_ok_iff.1 h
            exact .take found (by simpa using unseen) (inside_eq_ok_iff.1 read) (ih.1 rest)
        · intro h
          cases h with
          | skip other => rw [found] at other; cases other
          | take held unseen read rest =>
            cases found.symm.trans held
            rw [if_neg (by simpa using unseen)]
            exact bind_eq_ok_iff.2 ⟨_, inside_eq_ok_iff.2 read, ih.2 rest⟩

/-- Which names have been seen counts only for members still to come and for fields that are
required. -/
theorem Takes.congr_seen (h : Takes fields seen a ms b)
    (names : ∀ name, .ok name ∈ ms.map (·.1) → name ∈ seen' → name ∈ seen)
    (required : ∀ f ∈ fields, f.required = true → f.name ∈ seen → f.name ∈ seen') :
    Takes fields seen' a ms b := by
  induction h generalizing seen' with
  | done all => exact .done fun f mem need => required f mem need (all f mem need)
  | skip other whole _ ih =>
    exact .skip other whole (ih (fun name mem => names name (List.mem_cons_of_mem _ mem)) required)
  | @take seen _ _ _ name _ _ _ held unseen read _ ih =>
    refine .take held (fun mem => unseen (names name List.mem_cons_self mem)) read (ih ?_ ?_)
    · intro name' mem earlier
      rcases List.mem_cons.1 earlier with rfl | earlier
      · exact List.mem_cons_self
      · exact List.mem_cons_of_mem _ (names name' (List.mem_cons_of_mem _ mem) earlier)
    · intro f mem need earlier
      rcases List.mem_cons.1 earlier with e | earlier
      · exact e ▸ List.mem_cons_self
      · exact List.mem_cons_of_mem _ (required f mem need earlier)

/-- Members may stand in any order. -/
theorem Takes.perm (commute : fields.Pairwise Field.Commutes) (p : ms.Perm ms')
    (h : Takes fields seen a ms b) : Takes fields seen a ms' b := by
  induction p generalizing seen a with
  | nil => exact h
  | cons m _ ih =>
    cases h with
    | skip other whole rest => exact .skip other whole (ih rest)
    | take held unseen read rest => exact .take held unseen read (ih rest)
  | swap m m' ms =>
    cases h with
    | skip other whole rest =>
      cases rest with
      | skip other' whole' rest => exact .skip other' whole' (.skip other whole rest)
      | take held unseen read rest => exact .take held unseen read (.skip other whole rest)
    | @take _ _ _ _ name _ field _ held unseen read rest =>
      cases rest with
      | skip other whole rest => exact .skip other whole (.take held unseen read rest)
      | @take _ _ _ _ name' _ field' _ held' unseen' read' rest =>
        obtain ⟨mem, e⟩ := of_find? held
        obtain ⟨mem', e'⟩ := of_find? held'
        obtain ⟨other, unseen'⟩ := not_or.1 (mt List.mem_cons.2 unseen')
        have ne : field ≠ field' := fun same => other (by rw [← e, ← e', same])
        obtain ⟨a₂, first, second⟩ := bind_eq_ok_iff.1
          ((commute.forall mem mem' ne _ _ _ _).1 (bind_eq_ok_iff.2 ⟨_, read, read'⟩))
        have unseen₂ : name ∉ name' :: seen :=
          mt List.mem_cons.1 (not_or.2 ⟨Ne.symm other, unseen⟩)
        refine .take held' unseen' first (.take held unseen₂ second (rest.congr_seen ?_ ?_))
        · exact fun _ _ earlier => (List.Perm.swap name name' seen).mem_iff.2 earlier
        · exact fun _ _ _ earlier => (List.Perm.swap name' name seen).mem_iff.2 earlier
  | trans _ _ ih ih' => exact ih' (ih h)

theorem Node.IsSpelled.stop_eq {t : Node} {s : List Glyph} (h : t.IsSpelled s) : t.stop = none :=
  (Node.isSpelled_iff.1 h).2

section Rules

variable {rules : List MemberRule} {rule : MemberRule} {name : String} {initial : α}

/-- There is no field for a name without a rule. -/
theorem find?_eq_none (fits : List.Forall₂ (Fits initial) rules fields)
    (unknown : name ∉ rules.map (·.name)) : fields.find? (·.name == name) = none := by
  induction fits with
  | nil => rfl
  | cons fits _ ih =>
    obtain ⟨other, others⟩ := not_or.1 (mt List.mem_cons.2 unknown)
    rw [List.find?_cons_of_neg (by simpa [fits.name_eq] using Ne.symm other), ih others]

/-- The field of a rule is found by its name. -/
theorem exists_find? (fits : List.Forall₂ (Fits initial) rules fields)
    (distinct : (fields.map (·.name)).Nodup) (mem : rule ∈ rules) :
    ∃ field, fields.find? (·.name == rule.name) = some field ∧ Fits initial rule field := by
  induction fits with
  | nil => cases mem
  | @cons rule' field rules fields fits _ ih =>
    obtain ⟨new, distinct⟩ := List.nodup_cons.1 distinct
    rcases List.mem_cons.1 mem with rfl | mem
    · exact ⟨field, List.find?_cons_of_pos (by simp [fits.name_eq]), fits⟩
    · obtain ⟨field', found, fits'⟩ := ih distinct mem
      obtain ⟨among, named⟩ := of_find? found
      have other : field.name ≠ rule.name := fun e =>
        new (List.mem_map.2 ⟨field', among, named.trans e.symm⟩)
      exact ⟨field', by rw [List.find?_cons_of_neg (by simpa using other), found], fits'⟩

end Rules

namespace Record.Lenient

variable {r : Record α} {rules : List MemberRule}

/-- A record takes the same from members and from their variations. -/
theorem takes_iff (lenient : r.Lenient rules) (varies : MembersVary rules ms ms') (b : α) :
    Takes r.fields [] r.initial ms b ↔ Takes r.fields [] r.initial ms' b := by
  induction varies generalizing b with
  | symm _ ih => exact (ih b).symm
  | trans _ _ ih ih' => exact (ih b).trans (ih' b)
  | permute p => exact ⟨.perm lenient.commute p, .perm lenient.commute p.symm⟩
  | @insert name value ms unknown grammatical =>
    have other := find?_eq_none lenient.fits unknown
    obtain ⟨s, spelled⟩ := grammatical
    constructor
    · exact .skip other spelled.stop_eq
    · intro h
      cases h with
      | skip _ _ rest => exact rest
      | take held => rw [other] at held; cases held
  | @spellOut rule value ms mem default absent =>
    obtain ⟨field, found, fits⟩ := exists_find? lenient.fits lenient.distinct mem
    obtain ⟨optional, idle⟩ := fits.idle value default
    constructor
    · intro h
      refine .take found List.not_mem_nil idle (h.congr_seen ?_ ?_)
      · intro name among earlier
        rw [List.mem_singleton.1 earlier] at among
        exact absurd among absent
      · exact fun _ _ _ earlier => absurd earlier List.not_mem_nil
    · intro h
      cases h with
      | skip other => rw [found] at other; cases other
      | take held _ read rest =>
        cases found.symm.trans held
        cases idle.symm.trans read
        refine rest.congr_seen (fun _ _ earlier => absurd earlier List.not_mem_nil) ?_
        intro f among required earlier
        obtain ⟨mem, named⟩ := of_find? found
        have same := List.inj_on_of_nodup_map lenient.distinct among mem
          ((List.mem_singleton.1 earlier).trans named.symm)
        rw [same, optional] at required
        cases required
  | @inside rule value value' ms mem varies =>
    obtain ⟨field, found, fits⟩ := exists_find? lenient.fits lenient.distinct mem
    have one_way : ∀ {v v' : Node},
        (∀ a b, field.read .text v a = .ok b → field.read .text v' a = .ok b) →
        Takes r.fields [] r.initial ((.ok rule.name, v) :: ms) b →
        Takes r.fields [] r.initial ((.ok rule.name, v') :: ms) b := by
      intro v v' same h
      cases h with
      | skip other => rw [found] at other; cases other
      | take held unseen read rest =>
        cases found.symm.trans held
        exact .take held unseen (same _ _ read) rest
    exact ⟨one_way fun a b => (fits.blind varies a b).1,
      one_way fun a b => (fits.blind varies a b).2⟩

/-- A record that is written as a sequence takes the same from variations of its items. -/
theorem readItems_iff {initial : α} {rules : List MemberRule} {fields : List (Field α)}
    (fits : List.Forall₂ (Fits initial) rules fields) {items items' : List Node}
    (varies : ItemsVary rules items items') (expected : String) (size i : Nat) (a b : α) :
    Record.readItems expected .text none size fields i a items = .ok b ↔
      Record.readItems expected .text none size fields i a items' = .ok b := by
  induction varies generalizing fields i a with
  | nil => rfl
  | cons first _ ih =>
    cases fits with
    | cons fits others =>
      rw [Record.readItems, Record.readItems, bind_eq_ok_iff, bind_eq_ok_iff]
      simp only [inside_eq_ok_iff, fits.blind first, ih others]

theorem length_items {rules : List MemberRule} {items items' : List Node}
    (varies : ItemsVary rules items items') : items.length = items'.length := by
  induction varies with
  | nil => rfl
  | cons _ _ ih => exact congrArg Nat.succ ih

/-- A record's decoder is blind to the variations of the record. -/
theorem blind (lenient : r.Lenient rules) : Decoder.Blind r.decode (RecordVaries rules) := by
  intro t t' varies x
  cases varies with
  | same => rfl
  | object varies =>
    show readMembers r.fields .text none [] r.initial _ = .ok x ↔
      readMembers r.fields .text none [] r.initial _ = .ok x
    rw [readMembers_eq_ok_iff, readMembers_eq_ok_iff]
    exact lenient.takes_iff varies x
  | array varies =>
    show readItems _ .text none _ r.fields 0 r.initial _ = .ok x ↔
      readItems _ .text none _ r.fields 0 r.initial _ = .ok x
    rw [← length_items varies]
    exact readItems_iff lenient.fits varies _ _ _ _ _

end Record.Lenient

/-- No variation of a record makes it absent. -/
theorem RecordVaries.null_iff {rules : List MemberRule} {t t' : Node}
    (h : RecordVaries rules t t') : t = .null ↔ t' = .null := by
  cases h with
  | same => rfl
  | object => exact ⟨nofun, nofun⟩
  | array => exact ⟨nofun, nofun⟩

/-! ## Texts -/

/-- A decoder that is blind to a variation makes the same of a text that is written over by it. -/
theorem Decoder.Blind.decodeText_iff (blind : d.Blind vary) {s s' : List Glyph}
    (rewritten : Rewritten vary s s') (x : α) :
    decodeText d s = .ok x ↔ decodeText d s' = .ok x := by
  obtain ⟨t, t', spelled, varies, spelled'⟩ := rewritten
  rw [decodeText_eq_ok_iff, decodeText_eq_ok_iff, spelled.read_eq, spelled'.read_eq]
  exact and_congr Iff.rfl (blind varies x)

theorem eq_none_of_finish {stop : Option Fault} {result : Except Failure α} {x : α}
    (h : finish stop result = .ok x) : stop = none := by
  cases stop with
  | none => rfl
  | some f => cases h

theorem Record.stop_eq_of_readMembers {stop : Option Fault}
    (h : readMembers fields .text stop seen a ms = .ok b) : stop = none := by
  induction ms generalizing seen a with
  | nil => exact eq_none_of_finish h
  | cons m ms ih =>
    obtain ⟨name, value⟩ := m
    cases name with
    | error f => cases h
    | ok name =>
      rw [readMembers] at h
      split at h
      · split at h
        · cases h
        · exact ih h
      · split at h
        · cases h
        · obtain ⟨a', -, rest⟩ := bind_eq_ok_iff.1 h
          exact ih rest

theorem Record.stop_eq_of_readItems {expected : String} {stop : Option Fault} {size i : Nat}
    {items : List Node} (h : readItems expected .text stop size fields i a items = .ok b) :
    stop = none := by
  induction fields generalizing i a items with
  | nil =>
    cases items with
    | nil => exact eq_none_of_finish h
    | cons => cases h
  | cons field fields ih =>
    cases items with
    | nil => exact eq_none_of_finish h
    | cons =>
      obtain ⟨a', -, rest⟩ := bind_eq_ok_iff.1 h
      exact ih rest

/-- A record is decoded from nothing but a whole tree. -/
theorem Record.stop_eq_of_decode {r : Record α} {t : Node} {x : α} (h : r.decode .text t = .ok x) :
    t.stop = none := by
  unfold decode at h
  split at h
  · exact stop_eq_of_readMembers h
  · cases h
  · exact stop_eq_of_readItems h
  · exact absurd h (unexpected_ne_ok _ _ _)

/-- A text that decodes as a record spells a tree. -/
theorem Record.exists_isSpelled {r : Record α} {s : List Glyph} {x : α}
    (h : decodeText r.decode s = .ok x) : ∃ t : Node, t.IsSpelled s := by
  obtain ⟨atEnd, decoded⟩ := decodeText_eq_ok_iff.1 h
  exact ⟨(Node.read s).1,
    Node.isSpelled_iff.2 ⟨Prod.ext rfl atEnd, Record.stop_eq_of_decode decoded⟩⟩

end ClaExemption.Json
