import ClaExemption.Proofs.Config.Fields
import ClaExemption.Proofs.Config.Loading

/-!
# The file and the environment

The configuration is read from the settings of a file and those of the
environment over them. `Field.given` is what counts for one field: the variable
that sets it, otherwise what the file says. Each field of a configuration holds
what is read from what counts for it (`holds_given`), so that fields do not touch
each other.

There is one way in which they do (`load_field_by_field`): where the file writes
a group as a list, in the order of its fields, a variable for one of them loses
the whole list.
-/

namespace ClaExemption

open Keyed (lastOf lastOf_filterMap of_lastOf)
open Setting (Reads)

/-! ## Settings of the environment -/

namespace Environment

/-- No setting of the environment is a table, so each takes the place of what was there. -/
theorem overlay_setting (value : String) (below : Setting) :
    (setting value).overlay below = setting value := by
  unfold setting
  split
  · rfl
  · split
    · rfl
    · split <;> rfl

theorem overlay_of_mem_settings {env : Environment} {e : String × Setting} (mem : e ∈ env.settings)
    (below : Setting) : e.2.overlay below = e.2 := by
  obtain ⟨v, -, made⟩ := List.mem_filterMap.1 mem
  obtain ⟨key, -, rfl⟩ := Option.map_eq_some_iff.1 made
  exact overlay_setting v.2 below

theorem settings_append (before after : Environment) :
    settings (before ++ after) = before.settings ++ after.settings :=
  List.filterMap_append

theorem settings_cons {v : String × String} {key : String} (name : key? v.1 = some key)
    (after : Environment) : settings (v :: after) = (key, setting v.2) :: after.settings :=
  List.filterMap_cons_some (congrArg (Option.map fun key => (key, setting v.2)) name)

end Environment

namespace Config

variable {f g : Field} {env : Environment} {source : List (String × Setting)}

namespace Field

/-- Whether a variable of a name leads to the place of a field. -/
def isSetBy (f : Field) (name : String) : Bool :=
  (Environment.key? name).map pathOf = some f.place.path

theorem isSetBy_iff {name : String} : f.isSetBy name = true ↔
    ∃ key, Environment.key? name = some key ∧ pathOf key = f.place.path := by
  rw [isSetBy, decide_eq_true_iff, Option.map_eq_some_iff]

/-- No variable sets two fields. -/
theorem eq_of_isSetBy {name : String} (h : f.isSetBy name = true) (h' : g.isSetBy name = true) :
    f = g := by
  obtain ⟨key, made, leads⟩ := isSetBy_iff.1 h
  obtain ⟨key', made', leads'⟩ := isSetBy_iff.1 h'
  cases made.symm.trans made'
  by_contra ne
  exact path_ne ne (leads.symm.trans leads')

theorem isSetBy_variableName (f : Field) : f.isSetBy f.variableName = true :=
  isSetBy_iff.2 ⟨f.key, key?_variableName f, pathOf_key f⟩

/-- The value of the variable that sets a field; of several that do, the last one counts. -/
def assigned? (f : Field) (env : Environment) : Option String :=
  (lastOf (fun v => f.isSetBy v.1) env).map (·.2)

/-- Whether what the file says for a field is lost: the group of the field is a list there, and
some variable is for the group. -/
def isLost (f : Field) (file : Setting) (env : Environment) : Bool :=
  file.isListed f.place && f.place.isReached env.settings

/-- What counts for a field: the variable that sets it, otherwise what the file says, unless that
is lost. -/
def given (f : Field) (file : Setting) (env : Environment) : Option Setting :=
  ((f.assigned? env).map Environment.setting).or
    (if f.isLost file env then none else file.at? f.place)

theorem last?_settings (f : Field) (env : Environment) :
    f.place.last? env.settings = (f.assigned? env).map Environment.setting := by
  have leads : (fun v : String × String => ((Environment.key? v.1).map fun key =>
      (key, Environment.setting v.2)).any fun e => decide (pathOf e.1 = f.place.path)) =
      fun v => f.isSetBy v.1 := by
    funext v
    rw [isSetBy]
    cases Environment.key? v.1 <;> simp
  rw [Place.last?, Environment.settings, lastOf_filterMap, assigned?]
  show (Option.bind (lastOf _ env) _).map _ = _
  rw [leads]
  cases last : lastOf (fun v => f.isSetBy v.1) env with
  | none => rfl
  | some v =>
    have sets := of_lastOf last
    cases made : Environment.key? v.1 with
    | none => simp [isSetBy, made] at sets
    | some key => simp [made]

theorem given_of_assigned {file : Setting} {value : String} (last : f.assigned? env = some value) :
    f.given file env = some (Environment.setting value) := by
  rw [given, last]
  rfl

theorem given_of_written {file s : Setting} (unassigned : f.assigned? env = none)
    (written : file.at? f.place = some s) (kept : f.isLost file env = false) :
    f.given file env = some s := by
  rw [given, unassigned, kept, written]
  rfl

/-- What stands at the place of a field in the combined settings is what counts for it. -/
theorem at?_layers (alone : f.place.Alone env.settings) :
    (layers [source, env.settings]).at? f.place = f.given (layers [source]) env := by
  have combined := at?_layer (s := layers [source]) alone
    fun e mem _ => Environment.overlay_of_mem_settings mem
  rw [Place.given, last?_settings] at combined
  exact combined

end Field

/-! ## Combined settings -/

theorem exists_layer_eq (entries source : List (String × Setting)) :
    ∃ entries', layer (.table entries) source = .table entries' := by
  induction source generalizing entries with
  | nil => exact ⟨entries, rfl⟩
  | cons e source ih =>
    obtain ⟨name, steps, path⟩ := exists_pathOf_eq_cons e.1
    show ∃ entries', layer ((Setting.table entries).set (pathOf e.1) e.2) source = _
    rw [path]
    exact ih _

theorem exists_layers_eq (sources : List (List (String × Setting))) :
    ∃ entries, layers sources = .table entries := by
  refine List.foldlRecOn sources layer (motive := fun s => ∃ entries, s = .table entries)
    ⟨[], rfl⟩ fun below made source _ => ?_
  obtain ⟨entries, rfl⟩ := made
  exact exists_layer_eq entries source

/-- Each field of a configuration is read from what the combined settings say for it. -/
theorem reads_of_ofLayers {sources : List (List (String × Setting))} {c : Config}
    (h : ofLayers sources = .ok c) (f : Field) :
    Reads f.convert (f.get {}) ((layers sources).at? f.place) (f.get c) := by
  obtain ⟨entries, table⟩ := exists_layers_eq sources
  unfold ofLayers at h
  split at h
  · next read =>
    cases h
    rw [table] at read ⊢
    exact reads_of_ofSetting? read f
  · cases h

/-- What a field holds once the home directory stands in place of a tilde. -/
def Field.expand (home : Option String) : (f : Field) → f.Kind → f.Kind
  | .organizationsPath, path => path.map (expandHome home)
  | .transport, x | .host, x | .port, x | .name, x | .version, x | .grammar, x
  | .cachePatterns, x | .timingSeconds, x | .level, x | .format, x => x

theorem get_expand (home : Option String) (c : Config) (f : Field) :
    f.get (expand home c) = f.expand home (f.get c) := by
  cases f <;> rfl

/-! ## Field by field -/

variable {fs : FileSystem Id} {home path : Option String} {c c' : Config}

/-- The variables of an environment that are settings at all set fields. -/
def SetsFields (env : Environment) : Prop :=
  ∀ v ∈ env, ∀ key, Environment.key? v.1 = some key → ∃ f : Field, pathOf key = f.place.path

theorem Field.alone (f : Field) (known : SetsFields env) : f.place.Alone env.settings := by
  intro e mem
  obtain ⟨v, among, made⟩ := List.mem_filterMap.1 mem
  obtain ⟨key, name, rfl⟩ := Option.map_eq_some_iff.1 made
  obtain ⟨g, leads⟩ := known v among key name
  by_cases same : g = f
  · exact .inl (same ▸ leads)
  · exact .inr (leads ▸ Field.apart same)

/-- A field of a loaded configuration holds what is read from what counts for it. -/
def Holds (home : Option String) (c : Config) (f : Field) (said : Option Setting) : Prop :=
  ∃ x, Reads f.convert (f.get {}) said x ∧ f.get c = f.expand home x

theorem Holds.eq {said : Option Setting} (h : Holds home c f said) (h' : Holds home c' f said) :
    f.get c = f.get c' := by
  obtain ⟨x, reads, holds⟩ := h
  obtain ⟨x', reads', holds'⟩ := h'
  rw [holds, holds', reads.unique reads']

/-- Each field of a loaded configuration holds what is read from what counts for it. -/
theorem holds_given (alone : f.place.Alone env.settings)
    (read : fileSettings fs home path = .ok source) (h : loaded fs home env path = .ok c) :
    Holds home c f (f.given (layers [source]) env) := by
  obtain ⟨source', c, again, combined, rfl, -⟩ := loaded_eq_ok_iff.1 h
  cases read.symm.trans again
  refine ⟨f.get c, ?_, get_expand home c f⟩
  rw [← Field.at?_layers alone]
  exact reads_of_ofLayers combined f

/-- One environment is another with one more variable, which sets a field. -/
def Adds (g : Field) (env env' : Environment) : Prop :=
  ∃ before added after, env = before ++ after ∧ env' = before ++ added :: after ∧
    g.isSetBy added.1 = true

/-- Two files say the same for every field but one. -/
def SayAlike (g : Field) (file file' : Setting) : Prop :=
  ∀ f, f ≠ g → file.at? f.place = file'.at? f.place ∧
    file.isListed f.place = file'.isListed f.place

theorem Adds.setsFields {env' : Environment} (adds : Adds g env env') (known : SetsFields env) :
    SetsFields env' := by
  obtain ⟨before, added, after, rfl, rfl, sets⟩ := adds
  intro v mem key name
  rcases List.mem_append.1 mem with among | among
  · exact known v (List.mem_append_left _ among) key name
  · rcases List.mem_cons.1 among with rfl | among
    · obtain ⟨key', name', leads⟩ := Field.isSetBy_iff.1 sets
      cases name.symm.trans name'
      exact ⟨g, leads⟩
    · exact known v (List.mem_append_right _ among) key name

theorem Adds.assigned?_eq {env' : Environment} (adds : Adds g env env') (ne : f ≠ g) :
    f.assigned? env' = f.assigned? env := by
  obtain ⟨before, added, after, rfl, rfl, sets⟩ := adds
  have other : ¬ f.isSetBy added.1 = true := fun also => ne (Field.eq_of_isSetBy also sets)
  have same : (before ++ added :: after).filter (fun v => f.isSetBy v.1) =
      (before ++ after).filter (fun v => f.isSetBy v.1) := by
    simp [other]
  exact congrArg (fun kept => (kept.getLast?).map (·.2)) same

/-- A variable more reaches the group of its field, and what was reached before. -/
theorem Adds.isReached_eq {env' : Environment} (adds : Adds g env env') (p : Place) :
    p.isReached env'.settings = (p.isReached env.settings || p.isEntered g.place.path) := by
  obtain ⟨before, added, after, rfl, rfl, sets⟩ := adds
  obtain ⟨key, name, leads⟩ := Field.isSetBy_iff.1 sets
  rw [Environment.settings_append, Environment.settings_append, Environment.settings_cons name]
  simp only [Place.isReached, List.any_append, List.any_cons, leads]
  rw [Bool.or_assoc, Bool.or_comm (p.isEntered _)]

/-- A variable for another field leaves what counts for a field, unless it is the first one for a
group that the file writes as a list. -/
theorem Adds.given_eq {file : Setting} {env' : Environment} (adds : Adds g env env') (ne : f ≠ g)
    (kept : file.isListed f.place = true → f.place.group = g.place.group →
      f.place.isReached env.settings = true) :
    f.given file env' = f.given file env := by
  have same : f.isLost file env' = f.isLost file env := by
    rw [Field.isLost, Field.isLost, adds.isReached_eq]
    cases listed : file.isListed f.place with
    | false => rfl
    | true =>
      by_cases group : f.place.group = g.place.group
      · rw [kept listed group]; rfl
      · simp [Place.isEntered, Place.path, Ne.symm group]
  rw [Field.given, Field.given, adds.assigned?_eq ne, same]

/-- A configuration that loads is one that a service can be run with, and each field of it holds
what is read from the variable for it, otherwise from the file. A variable more for one field, or a
setting more for it in the file, changes no other one, except that the first variable for a group
that the file writes as a list loses what the list says. -/
theorem load_field_by_field (known : SetsFields env) (h : loaded fs home env path = .ok c) :
    c.IsUsable fs ∧ ∃ source, fileSettings fs home path = .ok source ∧
      (∀ f, Holds home c f (f.given (layers [source]) env)) ∧
      (∀ g env' c', Adds g env env' → loaded fs home env' path = .ok c' →
        ∀ f, f ≠ g → ((layers [source]).isListed f.place = true → f.place.group = g.place.group →
          f.place.isReached env.settings = true) → f.get c' = f.get c) ∧
      ∀ g fs' path' source' c', fileSettings fs' home path' = .ok source' →
        SayAlike g (layers [source]) (layers [source']) → loaded fs' home env path' = .ok c' →
          ∀ f, f ≠ g → f.get c' = f.get c := by
  obtain ⟨source, -, ofFile, -, -, usable⟩ := loaded_eq_ok_iff.1 h
  have holds : ∀ f, Holds home c f (f.given (layers [source]) env) := fun f =>
    holds_given (f.alone known) ofFile h
  refine ⟨usable, source, ofFile, holds, ?_, ?_⟩
  · intro g env' c' adds h' f ne kept
    have holds' := holds_given (f.alone (adds.setsFields known)) ofFile h'
    rw [adds.given_eq ne kept] at holds'
    exact holds'.eq (holds f)
  · intro g fs' path' source' c' ofFile' alike h' f ne
    have holds' := holds_given (f.alone known) ofFile' h'
    obtain ⟨there, listed⟩ := alike f ne
    rw [Field.given, Field.isLost, ← there, ← listed] at holds'
    exact holds'.eq (holds f)

theorem adds_first {name : String} (sets : g.isSetBy name = true) (value : String) :
    Adds g [] [(name, value)] :=
  ⟨[], _, [], rfl, rfl, sets⟩

/-- The port comes from the variable, the host from the file and the rest is as by default. -/
theorem load_field_by_field_port_and_host :
    ∃ c source, loaded (settingsFile "[server]\nhost = \"0.0.0.0\"\n") none
        [("SKIP_CLA__SERVER__PORT", "9000")] none = .ok c ∧
      c = { server := { host := "0.0.0.0", port := 9000 } } ∧
      fileSettings (settingsFile "[server]\nhost = \"0.0.0.0\"\n") none none = .ok source ∧
      c.IsUsable (settingsFile "[server]\nhost = \"0.0.0.0\"\n") ∧
      ∀ f, Holds none c f (f.given (layers [source]) [("SKIP_CLA__SERVER__PORT", "9000")]) := by
  have both : loaded (settingsFile "[server]\nhost = \"0.0.0.0\"\n") none
      [("SKIP_CLA__SERVER__PORT", "9000")] none =
        .ok { server := { host := "0.0.0.0", port := 9000 } } :=
    eq_ok_of_toOption (by decide +kernel)
  have name : Field.port.variableName = "SKIP_CLA__SERVER__PORT" := by decide +kernel
  have sets := name ▸ Field.isSetBy_variableName .port
  obtain ⟨usable, source, ofFile, holds, -, -⟩ :=
    load_field_by_field ((adds_first sets "9000").setsFields nofun) both
  exact ⟨_, source, both, rfl, ofFile, usable, holds⟩

/-- The transport and the host that the file gives in a list are lost when the variable for the port
is added. -/
theorem list_lost_to_variable :
    Adds .port [] [("SKIP_CLA__SERVER__PORT", "9000")] ∧
      loaded (settingsFile "server = [\"http\", \"0.0.0.0\"]\n") none [] none =
        .ok { server := { transport := .http, host := "0.0.0.0" } } ∧
      loaded (settingsFile "server = [\"http\", \"0.0.0.0\"]\n") none
        [("SKIP_CLA__SERVER__PORT", "9000")] none =
        .ok { server := { transport := .stdio, host := "127.0.0.1", port := 9000 } } :=
  have name : Field.port.variableName = "SKIP_CLA__SERVER__PORT" := by decide +kernel
  ⟨adds_first (name ▸ Field.isSetBy_variableName .port) _, eq_ok_of_toOption (by decide +kernel),
    eq_ok_of_toOption (by decide +kernel)⟩

end Config

end ClaExemption
