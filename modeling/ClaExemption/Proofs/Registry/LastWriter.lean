import ClaExemption.Config.Load
import ClaExemption.Proofs.Json.Sequence
import ClaExemption.Proofs.Keyed.Basic
import ClaExemption.Proofs.Text.ByteOrder
import Mathlib.Data.List.Induction

/-!
# The registry as a map of last writers

Records come and go by `Change`s. A run of them keeps each record filed under
its own name in lower case (`filed_run`), so under a name is what the last
change on it has left (`get?_run`), and the names that are listed are those of
the records that can be found (`mem_names`). The rules of the records play no
part in it (`run_map`). A text gives a registry exactly if all of it is a
sequence of records (`ofText_eq_ok_iff`). `run_last_writer` puts these together.
-/

namespace ClaExemption.Registry

open Keyed

/-- A change of which records there are. -/
inductive Change where
  | upsert (org : Organization)
  | remove (name : String)
deriving DecidableEq

/-- The name that a change is about. -/
def Change.name : Change → String
  | .upsert org => org.name
  | .remove name => name

/-- Whether a change is about a name, whatever the case of its letters. -/
def Change.isOn (name : String) (c : Change) : Bool := Text.lowercase c.name == Text.lowercase name

/-- The record that a change leaves under its name. -/
def Change.record : Change → Option Organization
  | .upsert org => some org
  | .remove _ => none

/-- The last change that is about a name. -/
def lastOn (name : String) (changes : List Change) : Option Change :=
  lastOf (·.isOn name) changes

/-- The registry after a change. -/
def apply (r : Registry) : Change → Registry
  | .upsert org => r.upsert org
  | .remove name => (r.remove name).2

/-- The registry after a run of changes, without records at first. -/
def run (changes : List Change) : Registry := changes.foldl apply empty

variable {r : Registry} {name : String} {org : Organization} {changes : List Change}

theorem run_concat (changes : List Change) (c : Change) :
    run (changes ++ [c]) = (run changes).apply c := List.foldl_concat _ _ _ _

theorem ofList_fst (orgs : List Organization) : (ofList orgs).1 = run (orgs.map .upsert) := by
  show orgs.foldl upsert empty = (orgs.map Change.upsert).foldl apply empty
  rw [List.foldl_map]
  rfl

/-! ## What is found -/

/-- No two records are filed under one key, and each is under its own name in lower case. -/
structure Filed (r : Registry) : Prop where
  distinct : Distinct r.records
  own : ∀ key org, (key, org) ∈ r.records → key = Text.lowercase org.name

theorem filed_apply (filed : r.Filed) (c : Change) : (r.apply c).Filed := by
  cases c with
  | upsert org =>
    refine ⟨filed.distinct.replace _ org, fun key org' mem => ?_⟩
    rcases List.mem_cons.1 mem with e | mem
    · cases e
      rfl
    · exact filed.own key org' (List.mem_filter.1 mem).1
  | remove name =>
    exact ⟨filed.distinct.filter _, fun key org mem => filed.own key org (List.mem_filter.1 mem).1⟩

theorem filed_run (changes : List Change) : (run changes).Filed := by
  induction changes using List.reverseRecOn with
  | nil => exact ⟨distinct_nil, nofun⟩
  | append_singleton changes c ih =>
    rw [run_concat]
    exact filed_apply ih c

theorem get?_apply (r : Registry) (c : Change) (name : String) :
    (r.apply c).get? name = if c.isOn name then c.record else r.get? name := by
  have comm : c.isOn name = true ↔ Text.lowercase name = Text.lowercase c.name := by
    rw [Change.isOn, beq_iff_eq, eq_comm]
  simp only [comm]
  cases c with
  | upsert org => exact get?_upsert r org name
  | remove gone => exact get?_remove r gone name

/-- Under a name is what the last change on it has left. -/
theorem get?_run (changes : List Change) (name : String) :
    (run changes).get? name = (lastOn name changes).bind Change.record := by
  induction changes using List.reverseRecOn with
  | nil => rfl
  | append_singleton changes c ih =>
    rw [run_concat, get?_apply, lastOn, lastOf_concat, ih]
    cases c.isOn name <;> rfl

theorem get?_run_eq_some_iff :
    (run changes).get? name = some org ↔ lastOn name changes = some (.upsert org) := by
  rw [get?_run, Option.bind_eq_some_iff]
  constructor
  · rintro ⟨c, last, left⟩
    cases c with
    | upsert org' => rw [last, Option.some.inj left]
    | remove gone => exact nomatch left
  · intro last
    exact ⟨_, last, rfl⟩

theorem organization_eq (s : Service) (name : String) :
    s.organization name = match s.registry.get? name with
      | some org => .ok org
      | none => .error (.unknownOrganization name) := rfl

/-! ## What is listed -/

theorem names_perm (r : Registry) : r.names.Perm (r.records.map (·.2.name)) :=
  List.mergeSort_perm _ _

theorem length_names (r : Registry) : r.names.length = r.size := by
  rw [(names_perm r).length_eq, List.length_map]
  rfl

theorem mem_names (filed : r.Filed) :
    name ∈ r.names ↔ ∃ org, r.get? name = some org ∧ org.name = name := by
  have found : ∀ org, r.get? name = some org ↔ (Text.lowercase name, org) ∈ r.records :=
    fun org => under_eq_some_iff filed.distinct
  simp only [found, (names_perm r).mem_iff, List.mem_map]
  constructor
  · rintro ⟨⟨key, org⟩, mem, rfl⟩
    exact ⟨org, filed.own key org mem ▸ mem, rfl⟩
  · rintro ⟨org, mem, named⟩
    exact ⟨_, mem, named⟩

/-- No two names that are listed are the same but for the case of their letters. -/
theorem names_pairwise_ne (filed : r.Filed) :
    r.names.Pairwise fun a b => Text.lowercase a ≠ Text.lowercase b := by
  refine (names_perm r).symm.pairwise ?_ Ne.symm
  rw [List.pairwise_map]
  refine filed.distinct.imp_of_mem fun {a b} memA memB apart => ?_
  rwa [← filed.own a.1 a.2 memA, ← filed.own b.1 b.2 memB]

theorem names_ascending (filed : r.Filed) : r.names.Pairwise (· < ·) := by
  have total : ∀ a b : String, (decide (a ≤ b) || decide (b ≤ a)) = true := fun a b => by
    simpa using String.le_total a b
  have sorted : r.names.Pairwise fun a b => decide (a ≤ b) = true :=
    @List.pairwise_mergeSort String (fun a b => decide (a ≤ b))
      (fun _ _ _ ab bc => decide_eq_true (le_trans (of_decide_eq_true ab) (of_decide_eq_true bc)))
      total _
  refine (sorted.and (names_pairwise_ne filed)).imp fun {a b} ⟨le, apart⟩ => ?_
  exact lt_of_le_of_ne (of_decide_eq_true le) fun same => apart (congrArg Text.lowercase same)

/-! ## What plays no part -/

/-- The registry with each record changed. -/
def map (f : Organization → Organization) (r : Registry) : Registry :=
  ⟨r.records.map fun e => (e.1, f e.2)⟩

/-- A change with its record changed. -/
def Change.map (f : Organization → Organization) : Change → Change
  | .upsert org => .upsert (f org)
  | .remove name => .remove name

variable {f : Organization → Organization}

theorem without_map (f : Organization → Organization) (r : Registry) (key : String) :
    (r.map f).without key = (r.without key).map f :=
  congrArg Registry.mk (List.filter_map ..)

theorem apply_map (keeps : ∀ org, (f org).name = org.name) (r : Registry) (c : Change) :
    (r.map f).apply (c.map f) = (r.apply c).map f := by
  cases c with
  | upsert org =>
    show (⟨(Text.lowercase (f org).name, f org) ::
      ((r.map f).without (Text.lowercase (f org).name)).records⟩ : Registry) = _
    rw [keeps, without_map]
    rfl
  | remove name => exact without_map f r _

/-- Records that differ in their rules alone come and go alike. -/
theorem run_map (keeps : ∀ org, (f org).name = org.name) (changes : List Change) :
    run (changes.map (Change.map f)) = (run changes).map f := by
  induction changes using List.reverseRecOn with
  | nil => rfl
  | append_singleton changes c ih =>
    rw [List.map_append, List.map_singleton, run_concat, run_concat, ih, apply_map keeps]

theorem get?_map (f : Organization → Organization) (r : Registry) (name : String) :
    (r.map f).get? name = (r.get? name).map f := by
  unfold get? map
  simp only [List.find?_map, Option.map_map]
  rfl

theorem names_map (keeps : ∀ org, (f org).name = org.name) (r : Registry) :
    (r.map f).names = r.names := by
  unfold names map
  rw [List.map_map]
  exact congrArg (List.mergeSort · _) (List.map_congr_left fun e _ => keeps e.2)

theorem size_map (f : Organization → Organization) (r : Registry) : (r.map f).size = r.size :=
  List.length_map _

/-! ## What is loaded -/

/-- The organization that an item of a sequence describes. -/
def Describes (item : Json.Node) (org : Organization) : Prop :=
  Wire.decodeOrganization .text item = .ok org

theorem ofText_eq_ok_iff {chars : List Char} {loaded : Registry × Log} :
    ofText chars = .ok loaded ↔ ∃ items orgs,
      Json.Node.read (chars.map some) = (.array items none, true) ∧
      List.Forall₂ Describes items orgs ∧ loaded = ofList orgs := by
  have decodes : ∀ orgs, Json.decodeText Wire.decodeOrganizations (chars.map some) = .ok orgs ↔ _ :=
    fun orgs => Json.decodeText_list_eq_ok_iff
  unfold ofText
  split
  · next orgs decoded =>
    obtain ⟨items, whole, described⟩ := (decodes orgs).1 decoded
    constructor
    · intro e
      exact ⟨items, orgs, whole, described, (Except.ok.inj e).symm⟩
    · rintro ⟨items', orgs', whole', described', rfl⟩
      have decoded' := (decodes orgs').2 ⟨items', whole', described'⟩
      rw [Except.ok.inj (decoded.symm.trans decoded')]
  · next failure decoded =>
    constructor
    · exact nofun
    · rintro ⟨items, orgs, whole, described, -⟩
      exact nomatch decoded.symm.trans ((decodes orgs).2 ⟨items, whole, described⟩)

/-- A text that gives no registry fails as such. -/
theorem ofText_fails {chars : List Char} (bad : ∀ loaded, ofText chars ≠ .ok loaded) :
    ∃ failure, ofText chars = .error (.organizations failure) := by
  unfold ofText at bad ⊢
  split
  · next orgs decoded => exact absurd (by rw [decoded]) (bad (ofList orgs))
  · next failure decoded => exact ⟨failure, rfl⟩

theorem ofText_fails_of_item {chars : List Char} {items : List Json.Node}
    {stop : Option Json.Fault} {atEnd : Bool} {item : Json.Node}
    (sequence : Json.Node.read (chars.map some) = (.array items stop, atEnd)) (mem : item ∈ items)
    (bad : ∀ org, ¬ Describes item org) :
    ∃ failure, ofText chars = .error (.organizations failure) := by
  refine ofText_fails fun loaded found => ?_
  obtain ⟨items', orgs, whole, described, -⟩ := ofText_eq_ok_iff.1 found
  cases sequence.symm.trans whole
  have each : List.Forall₂ (fun item org => (∃ org, Describes item org) ∧ Describes item org)
      items orgs := described.imp fun _ org h => ⟨⟨org, h⟩, h⟩
  obtain ⟨org, described⟩ := (List.forall₂_and_left _ _).1 each |>.1 item mem
  exact bad org described

/-! ## Whole runs -/

/-- In a registry the record of a name is what the last change on it has put in, and a service
knows no other. -/
structure FindsLast (r : Registry) (changes : List Change) : Prop where
  found : ∀ name org, r.get? name = some org ↔ lastOn name changes = some (.upsert org)
  removed : ∀ name, (r.remove name).1 = r.get? name
  known : ∀ (s : Service) name org, s.registry = r → lastOn name changes = some (.upsert org) →
    s.organization name = .ok org
  unknown : ∀ (s : Service) name, s.registry = r →
    (∀ org, lastOn name changes ≠ some (.upsert org)) →
    s.organization name = .error (.unknownOrganization name)

/-- The names that a registry lists are those of its records, each once whatever the case of its
letters, in the order of their bytes. -/
structure ListsFound (r : Registry) : Prop where
  ascending : (r.names.map Text.Utf8.encode).Pairwise (· < ·)
  length : r.names.length = r.size
  apart : r.names.Pairwise fun a b => Text.lowercase a ≠ Text.lowercase b
  listed : ∀ name, name ∈ r.names ↔ ∃ org, r.get? name = some org ∧ org.name = name
  all : ∀ name org, r.get? name = some org → org.name ∈ r.names

theorem findsLast_run (changes : List Change) : FindsLast (run changes) changes where
  found _ _ := get?_run_eq_some_iff
  removed _ := rfl
  known s name org holds last := by
    rw [organization_eq, holds, get?_run_eq_some_iff.2 last]
  unknown s name holds none := by
    have missing : (run changes).get? name = .none :=
      Option.eq_none_iff_forall_ne_some.2 fun org found => none org (get?_run_eq_some_iff.1 found)
    rw [organization_eq, holds, missing]

theorem listsFound (filed : r.Filed) : ListsFound r where
  ascending := List.pairwise_map.2 ((names_ascending filed).imp Text.Utf8.encode_lt_encode)
  length := length_names r
  apart := names_pairwise_ne filed
  listed _ := mem_names filed
  all _ _ found := (names_perm r).mem_iff.2
    (List.mem_map_of_mem ((under_eq_some_iff filed.distinct).1 found))

/-- After a run of changes a record is found as the last change on its name has left it, and the
names of those that are found are listed. The rules of a record change none of this. A list of
records is a run that puts them in, and a text gives the registry of the records in it, or none if
one of its items is no record. -/
theorem run_last_writer (changes : List Change) :
    FindsLast (run changes) changes ∧ ListsFound (run changes) ∧
    (∀ f : Organization → Organization, (∀ org, (f org).name = org.name) →
      let r := run (changes.map (Change.map f))
      (∀ name, r.get? name = ((run changes).get? name).map f) ∧
      r.names = (run changes).names ∧ r.size = (run changes).size) ∧
    (∀ orgs, (ofList orgs).1 = run (orgs.map .upsert)) ∧
    (∀ chars loaded, ofText chars = .ok loaded ↔ ∃ items orgs,
      Json.Node.read (chars.map some) = (.array items none, true) ∧
      List.Forall₂ Describes items orgs ∧ loaded = ofList orgs) ∧
    ∀ chars items stop atEnd, Json.Node.read (chars.map some) = (.array items stop, atEnd) →
      (∃ item ∈ items, ∀ org, ¬ Describes item org) →
      ∃ failure, ofText chars = .error (.organizations failure) := by
  refine ⟨findsLast_run changes, listsFound (filed_run changes), fun f keeps => ?_,
    ofList_fst, fun _ _ => ofText_eq_ok_iff,
    fun chars items stop atEnd sequence ⟨item, mem, bad⟩ => ofText_fails_of_item sequence mem bad⟩
  rw [run_map keeps changes]
  exact ⟨get?_map f _, names_map keeps _, size_map f _⟩

end ClaExemption.Registry
