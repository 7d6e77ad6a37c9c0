import ClaExemption.Lint
import ClaExemption.Proofs.Resolve.Partition
import ClaExemption.Proofs.Wire.RoundTrip
import Mathlib.Data.List.Dedup

/-!
# Ways to make a rule map

A list of entries makes one rule map, whether it is taken entry by entry, as a
whole (`RuleMap.collect_eq_ofList`), or from a JSON object with the entries for its
members (`decodeText_rules`). Under a key is the value that the list has last for
it (`lastValue`, `RuleMap.get?_ofList_eq_lastValue`), so the map has one entry for
each key of the list (`RuleMap.keys_perm`), and nothing else of the list counts.
`rule_map_of_entries` puts these together.
-/

namespace ClaExemption

open Json Keyed

variable {entries : List (String × String)} {key : String} {m : RuleMap}

/-- The value that a list of entries has last for a key. -/
def lastValue (entries : List (String × String)) (key : String) : Option String :=
  (lastOf (·.1 == key) entries).map (·.2)

theorem exists_lastValue_iff :
    (∃ v, lastValue entries key = some v) ↔ key ∈ entries.map (·.1) := by
  rw [← Option.isSome_iff_exists, lastValue, Option.isSome_map, lastOf, List.getLast?_isSome,
    Ne, List.filter_eq_nil_iff]
  simp only [beq_iff_eq, not_forall, not_not, exists_prop, List.mem_map]

/-! ## Sorted entries -/

/-- Sorting keeps the entries of one key in their order. -/
theorem filter_sortedByKey (entries : List (String × String)) (key : String) :
    (sortedByKey entries).filter (·.1 == key) = entries.filter (·.1 == key) := by
  have level : (entries.filter (·.1 == key)).Pairwise fun a b => keyLe a b = true := by
    refine List.pairwise_of_forall_mem_list fun a memA b memB => decide_eq_true ?_
    have keyA : a.1 = key := beq_iff_eq.1 (List.mem_filter.1 memA).2
    have keyB : b.1 = key := beq_iff_eq.1 (List.mem_filter.1 memB).2
    exact le_of_eq (keyA.trans keyB.symm)
  have within : (entries.filter (·.1 == key)).Sublist (sortedByKey entries) :=
    List.sublist_mergeSort keyLe_trans keyLe_total level List.filter_sublist
  have kept := within.filter (·.1 == key)
  simp only [List.filter_filter, Bool.and_self] at kept
  refine (kept.eq_of_length ?_).symm
  exact ((List.mergeSort_perm entries _).filter _).length_eq.symm

/-- Leaving out what is followed by its own key takes away no key's last entry. -/
theorem lastOf_lastOfRows (entries : List (String × String)) (key : String) :
    lastOf (·.1 == key) (lastOfRows entries) = lastOf (·.1 == key) entries := by
  fun_induction lastOfRows entries with
  | case1 => rfl
  | case2 => rfl
  | case3 e e' rest same ih =>
    -- The entry left out has the key of the next one, so it is not the last with its key.
    rw [ih, lastOf_cons _ e, lastOf_cons _ e', same]
    cases lastOf (·.1 == key) rest <;> cases e'.1 == key <;> rfl
  | case4 e e' rest _ ih => rw [lastOf_cons _ e, ih, ← lastOf_cons _ e]

namespace RuleMap

/-! ## What is under a key -/

theorem get?_ofList_eq_lastValue (entries : List (String × String)) (key : String) :
    (ofList entries).get? key = lastValue entries key := by
  rw [get?_ofList, lastValue, lastOf, List.getLast?_filter]

theorem get?_collect (entries : List (String × String)) (key : String) :
    (collect entries).get? key = lastValue entries key := by
  rw [← ofList_toList (collect entries), get?_ofList_eq_lastValue, lastValue, lastValue]
  show (lastOf _ (lastOfRows (sortedByKey entries))).map _ = _
  rw [lastOf_lastOfRows, lastOf, filter_sortedByKey, lastOf]

/-- Taking entries as a whole comes to putting them in one by one. -/
theorem collect_eq_ofList (entries : List (String × String)) : collect entries = ofList entries :=
  ext_get? fun key => by rw [get?_collect, get?_ofList_eq_lastValue]

/-- Only the last values count. -/
theorem ofList_congr {entries' : List (String × String)}
    (same : ∀ key, lastValue entries key = lastValue entries' key) :
    ofList entries = ofList entries' :=
  ext_get? fun key => by rw [get?_ofList_eq_lastValue, get?_ofList_eq_lastValue, same]

/-! ## What is listed -/

theorem keys_ascend (m : RuleMap) :
    m.toList.Pairwise fun a b => Text.Utf8.encode a.1 < Text.Utf8.encode b.1 :=
  m.ascending.imp Text.Utf8.encode_lt_encode

theorem mem_keys : key ∈ m.toList.map (·.1) ↔ ∃ v, m.get? key = some v := by
  simp only [List.mem_map, Prod.exists, exists_and_right, exists_eq_right, get?_eq_some]
  rfl

/-- The keys of a map are those of the list that it is made of, each of them once. -/
theorem keys_perm (entries : List (String × String)) :
    ((ofList entries).toList.map (·.1)).Perm (entries.map (·.1)).dedup := by
  have distinct : ((ofList entries).toList.map (·.1)).Nodup :=
    List.pairwise_map.2 ((ofList entries).ascending.imp Std.ne_of_lt)
  refine (List.perm_ext_iff_of_nodup distinct (List.nodup_dedup _)).2 fun key => ?_
  rw [mem_keys, List.mem_dedup, ← exists_lastValue_iff]
  simp only [get?_ofList_eq_lastValue]

/-- The entries under regular expressions are those whose keys begin with the mark. -/
theorem map_regexEntries (m : RuleMap) :
    m.regexEntries.map (fun e => (e.key, e.value)) =
      m.toList.filter fun e => "re:".toList.isPrefixOf e.1.toList := by
  have marked : ∀ key, (regexSource? key).isSome = "re:".toList.isPrefixOf key.toList := by
    intro key
    have mark : "re:".toList = regexMark := rfl
    rw [Bool.eq_iff_iff, Option.isSome_iff_exists, List.isPrefixOf_iff_prefix, mark]
    simp only [regexSource?_eq_some]
    constructor
    · rintro ⟨source, rfl⟩
      rw [String.toList_ofList]
      exact List.prefix_append _ _
    · rintro ⟨rest, e⟩
      refine ⟨String.ofList rest, String.toList_injective ?_⟩
      rw [String.toList_ofList, String.toList_ofList]
      exact e.symm
  rw [regexEntries, List.map_filterMap, ← List.filterMap_eq_filter]
  refine List.filterMap_congr fun e _ => ?_
  obtain ⟨key, value⟩ := e
  show ((regexSource? key).map _).map _ = Option.guard _ _
  rw [Option.guard, ← marked]
  cases regexSource? key <;> rfl

end RuleMap

/-! ## JSON objects -/

/-- A JSON text is an object with the entries of a list for its members, in their order. -/
def WritesEntries (s : List Glyph) (entries : List (String × String)) : Prop :=
  Node.read s = (.object (entries.map fun e => (.ok e.1, .text (.ok e.2))) none, true)

/-- The object with the entries of a list for its members. -/
def objectOf (entries : List (String × String)) : Value :=
  .object (entries.map fun e => (e.1, .text e.2))

theorem node_objectOf (entries : List (String × String)) :
    (objectOf entries).node =
      .object (entries.map fun e => (.ok e.1, .text (.ok e.2))) none := by
  rw [objectOf, Value.node, Value.nodesOfMembers_eq_map, List.map_map]
  rfl

theorem writesEntries_render (entries : List (String × String)) :
    WritesEntries (glyphsOfText (objectOf entries).render) entries := by
  rw [WritesEntries, Node.read_render, node_objectOf]

/-- The members of an object are put in one by one, in their order. -/
theorem decodeText_rules {s : List Glyph} (written : WritesEntries s entries) :
    decodeText Wire.decodeRules s = .ok (RuleMap.ofList entries) := by
  have members : decodeMap decodeString .text (objectOf entries).node = .ok entries :=
    Decoder.inverts_text.map .text entries
  rw [decodeText_eq_ok_iff, written, ← node_objectOf, Wire.decodeRules, members]
  exact ⟨rfl, rfl⟩

/-! ## All ways -/

/-- Entries make one map, put in one by one, taken as a whole, or read from a JSON object. Under a
key is the last value for it; the keys are those of the entries, each once, in the order of their
bytes; and those under regular expressions are the ones whose keys begin with the mark, which is
taken off once. So entries with the same last values have the same broken expressions reported,
and the same decisions made by them, whatever has been compiled before. -/
theorem rule_map_of_entries (entries : List (String × String)) :
    let m : RuleMap := entries.foldl (fun m e => m.insert e.1 e.2) .empty
    m = .collect entries ∧
    (∀ s, WritesEntries s entries → decodeText Wire.decodeRules s = .ok m) ∧
    decodeDocument Wire.decodeRules (objectOf entries).render = .ok m ∧
    (∀ key, m.get? key = lastValue entries key) ∧
    m.toList.Pairwise (fun a b => Text.Utf8.encode a.1 < Text.Utf8.encode b.1) ∧
    (m.toList.map (·.1)).Perm (entries.map (·.1)).dedup ∧
    m.size = (entries.map (·.1)).dedup.length ∧
    (m.regexEntries.map fun e => (e.key, e.value)) =
      m.toList.filter (fun e => "re:".toList.isPrefixOf e.1.toList) ∧
    (∀ e ∈ m.regexEntries, e.key = "re:" ++ e.source) ∧
    ∀ entries', (∀ key, lastValue entries key = lastValue entries' key) →
      let m' := RuleMap.collect entries'
      m.lint = m'.lint ∧
      ∀ (grammar : Grammar) (s : Subject) (actors : List (Option Actor))
        (session session' : Session),
        session.cache.Reachable → session'.cache.Reachable →
        (resolve grammar s (some m) actors session).1 =
          (resolve grammar s (some m') actors session').1 := by
  intro m
  have perm : (m.toList.map (·.1)).Perm (entries.map (·.1)).dedup := RuleMap.keys_perm entries
  refine ⟨(RuleMap.collect_eq_ofList entries).symm, fun s => decodeText_rules,
    decodeText_rules (writesEntries_render entries), RuleMap.get?_ofList_eq_lastValue entries,
    m.keys_ascend, perm, ?_, m.map_regexEntries, fun e mem => (RuleMap.mem_regexEntries.1 mem).1,
    fun entries' same => ?_⟩
  · rw [← perm.length_eq, List.length_map]
    rfl
  · intro m'
    have equal : m = m' :=
      (RuleMap.ofList_congr same).trans (RuleMap.collect_eq_ofList entries').symm
    refine ⟨congrArg RuleMap.lint equal, fun grammar s actors session session' h h' => ?_⟩
    have yields := yields_resolve s grammar (some m) actors
    rw [← equal, yields.value h, yields.value h']

/-- Entries of which two keys are listed twice. -/
def listedTwice : List (String × String) :=
  [("re:^z", "bob;;"), ("*", ""), ("re:^z", "re:("), ("*", "*;*;*")]

theorem rule_map_of_entries_twice :
    let m : RuleMap := listedTwice.foldl (fun m e => m.insert e.1 e.2) .empty
    let m' := RuleMap.collect [("re:^z", "re:("), ("*", "*;*;*")]
    (∀ key, lastValue listedTwice key = lastValue [("re:^z", "re:("), ("*", "*;*;*")] key) ∧
    WritesEntries (glyphsOfText (objectOf listedTwice).render) listedTwice ∧
    decodeText Wire.decodeRules (glyphsOfText (objectOf listedTwice).render) = .ok m ∧
    m.toList = [("*", "*;*;*"), ("re:^z", "re:(")] ∧ m.lint = m'.lint := by
  intro m m'
  have same : ∀ key,
      lastValue listedTwice key = lastValue [("re:^z", "re:("), ("*", "*;*;*")] key := fun key => by
    have equal : RuleMap.ofList listedTwice = .ofList [("re:^z", "re:("), ("*", "*;*;*")] := by
      decide +kernel
    rw [← RuleMap.get?_ofList_eq_lastValue, equal, RuleMap.get?_ofList_eq_lastValue]
  obtain ⟨-, decoded, -, -, -, -, -, -, -, agree⟩ := rule_map_of_entries listedTwice
  exact ⟨same, writesEntries_render _, decoded _ (writesEntries_render _), by decide +kernel,
    (agree _ same).1⟩

end ClaExemption
