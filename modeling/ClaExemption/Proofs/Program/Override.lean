import ClaExemption.Program.Start
import ClaExemption.Proofs.Config.Layers

/-!
# The file of organizations on the command line

A file of organizations that the command line names is served in place of the
configured one, which is not read. But the configuration is checked before that,
and the check wants the configured file to be there: the program starts as if none
were configured if and only if the configured path is not blank and leads to
something (`start_override`).
-/

namespace ClaExemption

open Config (run_bind)
open Setting (Reads readFrom_cons readParts_of_part?)

/-! ## Settings that differ in the path -/

namespace Config

/-- Settings that name a file of organizations by a text, and settings that name none but are the
same otherwise. -/
structure NamesOnly (text : String) (s s' : Setting) : Prop where
  named : ∃ v, s.at? Field.organizationsPath.place = some v ∧
    Field.organizationsPath.convert v = some (some text)
  unnamed : s'.at? Field.organizationsPath.place = none
  others : ∀ group, group ≠ Field.organizationsPath.place.group →
    s.entries.lookup group = s'.entries.lookup group

variable {text : String} {c : Config}

/-- To set the path makes settings that name no file name one. -/
theorem namesOnly_set {s v : Setting} (unnamed : s.at? Field.organizationsPath.place = none)
    (reads : Field.organizationsPath.convert v = some (some text)) :
    NamesOnly text (s.set Field.organizationsPath.place.path v) s := by
  have solid : ∀ below, v.overlay below = v := fun below => by
    cases v with
    | table entries => cases reads
    | _ => rfl
  have table : (s.set Field.organizationsPath.place.path v).isListed
      Field.organizationsPath.place = false := by
    rw [Setting.isListed_set (.inl rfl)]
    exact Bool.and_false _
  refine ⟨⟨v, ?_, reads⟩, unnamed, fun group ne => ?_⟩
  · rw [Setting.at?_of_not_isListed table, Setting.named?_set_path, solid]
  · exact Setting.lookup_set_of_not_isEntered (p := ⟨group, "", 0⟩) ne

/-- One more variable, for the path, makes settings that name no file name one. -/
theorem namesOnly_of_variable {source : List (String × Setting)} {env : Environment}
    {v : String × String} (sets : Field.organizationsPath.isSetBy v.1 = true)
    (unnamed : (layers [source, env.settings]).at? Field.organizationsPath.place = none)
    (reads : Field.organizationsPath.convert (Environment.setting v.2) = some (some text)) :
    NamesOnly text (layers [source, Environment.settings (env ++ [v])])
      (layers [source, env.settings]) := by
  obtain ⟨key, name, leads⟩ := Field.isSetBy_iff.1 sets
  have above : layers [source, Environment.settings (env ++ [v])] =
      (layers [source, env.settings]).set (pathOf key) (Environment.setting v.2) := by
    rw [Environment.settings_append, Environment.settings_cons name]
    exact List.foldl_append
  rw [above, leads]
  exact namesOnly_set unnamed reads

theorem reads_store {given : Option Setting} {v : Setting}
    (at? : given.bind (Setting.part? "organizations_path" 0) = some v)
    (reads : Field.organizationsPath.convert v = some (some text)) :
    Reads (Setting.readParts storeParts none) none given (some text) := by
  obtain ⟨group, rfl, said⟩ := Option.bind_eq_some_iff.1 at?
  refine (readParts_of_part? said storeParts none).trans (readFrom_cons id rfl ?_ rfl)
  rw [said]
  exact reads

/-- Whoever names no file of organizations reads the same configuration without a path. -/
theorem ofLayers_of_namesOnly {sources sources' : List (List (String × Setting))}
    (same : NamesOnly text (layers sources) (layers sources')) (read : ofLayers sources' = .ok c) :
    c.organizationsPath = none ∧
      ofLayers sources = .ok { c with organizationsPath := some text } := by
  have path := reads_of_ofLayers read .organizationsPath
  rw [same.unnamed] at path
  refine ⟨path, ?_⟩
  obtain ⟨entries, table⟩ := exists_layers_eq sources
  obtain ⟨entries', table'⟩ := exists_layers_eq sources'
  obtain ⟨v, said, reads⟩ := same.named
  have others := same.others
  rw [table, table'] at others
  rw [ofLayers, table'] at read
  rw [table] at said
  rw [ofLayers, table]
  split at read
  · next made =>
    cases read
    obtain ⟨server, rules, -, metrics, logging⟩ := ofSetting?_eq_some_iff.1 made
    have whole : ofSetting? (.table entries) = some { c with organizationsPath := some text } := by
      refine ofSetting?_eq_some_iff.2 ⟨?_, ?_, reads_store said reads, ?_, ?_⟩
      · exact (others "server" (by decide)).symm ▸ server
      · exact (others "allowlist" (by decide)).symm ▸ rules
      · exact (others "metrics" (by decide)).symm ▸ metrics
      · exact (others "logging" (by decide)).symm ▸ logging
    rw [whole]
  · cases read

variable {fs fs' : FileSystem Id} {home path : Option String} {env env' : Environment}
  {source source' : List (String × Setting)}

/-- To name a file of organizations matters for loading: it has to be there. -/
theorem loaded_of_namesOnly (ofFile : fileSettings fs home path = .ok source)
    (ofFile' : fileSettings fs' home path = .ok source')
    (same : NamesOnly text (layers [source, env.settings]) (layers [source', env'.settings]))
    (valid : loaded fs' home env' path = .ok c) :
    loaded fs home env path =
      if Text.trim (expandHome home text) = "" then .error .blankOrganizationsPath
      else if Id.run (fs.has (expandHome home text)) then
        .ok { c with organizationsPath := some (expandHome home text) }
      else .error (.organizationsNotFound (expandHome home text)) := by
  obtain ⟨_, read, again, combined, rfl, usable⟩ := loaded_eq_ok_iff.1 valid
  cases ofFile'.symm.trans again
  obtain ⟨unnamed, named⟩ := ofLayers_of_namesOnly same combined
  have kept : expand home read = read := by
    cases read
    cases unnamed
    rfl
  rw [kept] at usable ⊢
  rw [loaded_eq, ofFile]
  show (ofLayers _).bind _ = _
  rw [named]
  show (check { read with organizationsPath := some (expandHome home text) }).bind _ = _
  rw [check, if_neg (UInt16.pos_iff_ne_zero.1 usable.port_pos), if_neg usable.host_ne,
    if_neg (UInt64.pos_iff_ne_zero.1 usable.timing_pos)]
  simp only [Option.any_some, decide_eq_true_eq]
  split_ifs with blank there
  · rfl
  · exact if_pos there
  · exact findOrganizations_of_missing
      { read with organizationsPath := some (expandHome home text) } rfl there

end Config

/-! ## Starting -/

namespace Program

/-- What the program is started with, the files staying as they are. -/
structure Outset where
  fs : FileSystem Id
  env : Environment

namespace Outset

/-- The environment with the variables of the file added. -/
def environment (o : Outset) : Environment := Id.run (extendEnvironment o.fs o.env)

/-- The home directory. -/
def home (o : Outset) : Option String := homeOf o.environment

/-- What the command line and the environment set. -/
def arguments (o : Outset) (words : List String) : Except UsageStop Arguments :=
  Arguments.read o.environment words

/-- The settings of the file, which the command line may name. -/
def source (o : Outset) (a : Arguments) : Except ConfigError (List (String × Setting)) :=
  Config.fileSettings o.fs o.home a.config

/-- The configuration. -/
def config (o : Outset) (a : Arguments) : Except ConfigError Config :=
  Config.loaded o.fs o.home o.environment a.config

/-- The registry of the records in a file. -/
def records (o : Outset) (path : Option String) : Except ConfigError (Registry × Log) :=
  (loadRegistry o.fs path).run

/-- What the program starts. -/
def start (o : Outset) (words : List String) : Except Stop Run :=
  (Program.start o.fs o.env words).run

variable {o o' : Outset} {words : List String} {a : Arguments}

theorem start_eq (read : o.arguments words = .ok a) :
    o.start words = ((o.config a).mapError .config).bind fun c =>
      ((o.records (a.organizations.or c.organizationsPath)).mapError .config).bind fun found =>
        runOf a c (.ofConfig c found.1 .logging found.2) := by
  rw [start, Program.start, run_bind]
  show ExceptT.run (m := Id) (ExceptT.mk (m := Id) ((o.arguments words).mapError _) >>= _) = _
  rw [read, run_bind]
  show ExceptT.run (m := Id) (ExceptT.adapt _ _ >>= _) = _
  rw [run_bind]
  refine congrArg (Except.bind _) (funext fun c => ?_)
  rw [run_bind]
  rfl

/-- An outset of which the configuration names a file of organizations by a text, and one that is
the same but for that. -/
structure Names (text : String) (a : Arguments) (o o' : Outset) : Prop where
  home : o.home = o'.home
  sources : ∃ source source', o.source a = .ok source ∧ o'.source a = .ok source' ∧
    Config.NamesOnly text (layers [source, o.environment.settings])
      (layers [source', o'.environment.settings])

theorem Names.config {text : String} {c : Config} (names : Names text a o o')
    (valid : o'.config a = .ok c) :
    o.config a =
      if Text.trim (expandHome o.home text) = "" then .error .blankOrganizationsPath
      else if Id.run (o.fs.has (expandHome o.home text)) then
        .ok { c with organizationsPath := some (expandHome o.home text) }
      else .error (.organizationsNotFound (expandHome o.home text)) := by
  obtain ⟨home, source, source', ofFile, ofFile', same⟩ := names
  rw [Outset.config, ← home] at valid
  rw [Outset.source, ← home] at ofFile'
  exact Config.loaded_of_namesOnly ofFile ofFile' same valid

/-! ### A small outset -/

/-- An outset with the text of a file of settings and an empty file of organizations. -/
def ofText (text : String) (env : Environment) : Outset where
  fs := FileTree.fileSystem
    { files := [(["skip-cla.toml"], text.toUTF8.toList), (["orgs.json"], "[]".toUTF8.toList)] }
  env

/-- The empty file of organizations as an option of the command line. -/
def orgsOption : List String := ["--organizations", "orgs.json"]

/-- What the option sets. -/
def orgsArguments : Arguments := { organizations := some "orgs.json" }

/-- A variable for the path, which leads to the file of settings. -/
def pathVariable : String × String := ("SKIP_CLA__STORE__ORGANIZATIONS_PATH", "skip-cla.toml")

theorem ofText_reads : ∀ env ∈ [[pathVariable], []], (ofText "" env).environment = env ∧
    (ofText "" env).arguments orgsOption = .ok orgsArguments ∧
    (ofText "" env).source orgsArguments = .ok [] := by
  have reads : ∀ env ∈ [[pathVariable], []], (ofText "" env).environment = env ∧
      ((ofText "" env).arguments orgsOption).toOption = some orgsArguments ∧
      ((ofText "" env).source orgsArguments).toOption.map List.length = some 0 := by
    decide +kernel
  intro env mem
  obtain ⟨same, arguments, noSettings⟩ := reads env mem
  obtain ⟨source, ofFile, empty⟩ := Option.map_eq_some_iff.1 noSettings
  rw [Config.eq_ok_of_toOption ofFile, List.length_eq_zero_iff.1 empty]
  exact ⟨same, Config.eq_ok_of_toOption arguments, rfl⟩

theorem names_pathVariable :
    Names "skip-cla.toml" orgsArguments (ofText "" [pathVariable]) (ofText "" []) := by
  obtain ⟨same, -, source⟩ := ofText_reads [pathVariable] (by decide)
  obtain ⟨same', -, source'⟩ := ofText_reads [] (by decide)
  refine ⟨by rw [home, home, same, same']; decide +kernel, [], [], source, source', ?_⟩
  rw [same, same']
  have name : Config.Field.organizationsPath.variableName = pathVariable.1 := by decide +kernel
  have sets := name ▸ Config.Field.isSetBy_variableName .organizationsPath
  show Config.NamesOnly _ (layers [[], Environment.settings ([] ++ [pathVariable])]) _
  exact Config.namesOnly_of_variable sets rfl (by decide +kernel)

theorem ofText_loads : (ofText "" []).config orgsArguments = .ok {} ∧
    ∃ registry log, (ofText "" []).records (some "orgs.json") = .ok (registry, log) := by
  refine ⟨Config.eq_ok_of_toOption (by decide +kernel), ?_⟩
  have loads : ((ofText "" []).records (some "orgs.json")).isOk = true := by decide +kernel
  rcases read : (ofText "" []).records (some "orgs.json") with e | ⟨registry, log⟩
  · rw [read] at loads
    cases loads
  · exact ⟨registry, log, rfl⟩

/-- Settings that name a file of organizations that is not there. -/
def goneSettings : String := "[store]\norganizations_path = \"gone.json\"\n"

theorem ofText_goneSettings : (ofText goneSettings []).arguments orgsOption = .ok orgsArguments ∧
    (ofText goneSettings []).config orgsArguments = .error (.organizationsNotFound "gone.json") := by
  refine ⟨Config.eq_ok_of_toOption (by decide +kernel), ?_⟩
  have combined : (((ofText goneSettings []).source orgsArguments).bind fun source =>
      (Config.ofLayers [source, (ofText goneSettings []).environment.settings]).bind fun c =>
        (Config.expand (ofText goneSettings []).home c).check) =
          .ok { organizationsPath := some "gone.json" } :=
    Config.eq_ok_of_toOption (by decide +kernel)
  obtain ⟨source, ofFile, combined⟩ := Config.bind_eq_ok.1 combined
  obtain ⟨read, named, checked⟩ := Config.bind_eq_ok.1 combined
  have gone : ¬ Id.run ((ofText goneSettings []).fs.has "gone.json") = true := by decide +kernel
  rw [config, Config.loaded_eq]
  show ((ofText goneSettings []).source orgsArguments).bind _ = _
  rw [ofFile]
  show (Config.ofLayers _).bind _ = _
  rw [named]
  show (Config.check _).bind _ = _
  rw [checked]
  exact Config.findOrganizations_of_missing { organizationsPath := some "gone.json" } rfl gone

/-! ### The override -/

/-- With a file of organizations on the command line that can be read, the program serves its
records, and starts as if none were configured if the configured path is not blank and leads to
something. Otherwise it does not start. -/
theorem start_override {given text : String} {c : Config} {registry : Registry} {log : Log}
    (arguments : o.arguments words = .ok a) (arguments' : o'.arguments words = .ok a)
    (option : a.organizations = some given) (names : Names text a o o')
    (valid : o'.config a = .ok c) (readable : o.records (some given) = .ok (registry, log))
    (readable' : o'.records (some given) = .ok (registry, log)) :
    (transportOf c a.transport = .stdio →
      o'.start words = .ok (.lines (.ofConfig c registry .logging log))) ∧
    o.start words =
      if Text.trim (expandHome o.home text) = "" then .error (.config .blankOrganizationsPath)
      else if Id.run (o.fs.has (expandHome o.home text)) then o'.start words
      else .error (.config (.organizationsNotFound (expandHome o.home text))) := by
  have without : o'.start words = runOf a c (.ofConfig c registry .logging log) := by
    rw [start_eq arguments', valid, option]
    show ((o'.records (some given)).mapError _).bind _ = _
    rw [readable']
    rfl
  refine ⟨fun lines => ?_, ?_⟩
  · rw [without, runOf, lines]
  · rw [start_eq arguments, names.config valid, without]
    split_ifs
    · rfl
    · rw [option]
      show ((o.records (some given)).mapError _).bind _ = _
      rw [readable]
      rfl
    · rfl

/-- A configured file that is there but holds no records does not matter. -/
theorem start_override_no_records :
    ∃ registry log, (ofText "" []).start orgsOption =
        .ok (.lines (.ofConfig {} registry .logging log)) ∧
      (ofText "" [pathVariable]).start orgsOption = (ofText "" []).start orgsOption := by
  obtain ⟨-, arguments, -⟩ := ofText_reads [pathVariable] (by decide)
  obtain ⟨-, arguments', -⟩ := ofText_reads [] (by decide)
  obtain ⟨valid, registry, log, readable⟩ := ofText_loads
  obtain ⟨served, override⟩ :=
    start_override arguments arguments' rfl names_pathVariable valid readable readable
  have path : expandHome (ofText "" [pathVariable]).home "skip-cla.toml" = "skip-cla.toml" := by
    decide +kernel
  rw [path, if_neg (by decide +kernel), if_pos (by decide +kernel)] at override
  exact ⟨registry, log, served rfl, override⟩

/-- A configured file that is not there keeps the program from starting. -/
theorem start_override_missing :
    (∃ s, (ofText "" []).start orgsOption = .ok (.lines s)) ∧
      (ofText goneSettings []).start orgsOption =
        .error (.config (.organizationsNotFound "gone.json")) := by
  constructor
  · obtain ⟨-, arguments, -⟩ := ofText_reads [] (by decide)
    obtain ⟨valid, registry, log, readable⟩ := ofText_loads
    rw [start_eq arguments, valid]
    show ∃ s, ((records _ (some "orgs.json")).mapError _).bind _ = _
    rw [readable]
    exact ⟨_, rfl⟩
  · obtain ⟨arguments, missing⟩ := ofText_goneSettings
    rw [start_eq arguments, missing]
    rfl

end Outset

end Program

end ClaExemption
