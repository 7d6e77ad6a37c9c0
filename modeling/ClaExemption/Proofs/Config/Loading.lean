import ClaExemption.Config.Load
import ClaExemption.Files.Tree
import ClaExemption.Proofs.Json.Sequence
import ClaExemption.Proofs.Service.ClockRange

/-!
# Loading with files that stay as they are

`Config.loaded` is the outcome of a load whose files do not change under it. It
succeeds exactly if the file can be read, a configuration is in its settings and
those of the environment, and a service can be run with that
(`Config.loaded_eq_ok_iff`).
-/

namespace ClaExemption.Config

/-- What loading comes to with files that stay as they are. -/
def loaded (fs : FileSystem Id) (home : Option String) (env : Environment)
    (path : Option String) : Except ConfigError Config :=
  (load fs home env path).run

/-- The settings of the file that is read, none if there is no file. -/
def fileSettings (fs : FileSystem Id) (home path : Option String) :
    Except ConfigError (List (String × Setting)) :=
  ExceptT.run (m := Id) do
    match ← findFile fs home path with
    | some path => readFile fs path
    | none => pure []

/-- The configuration with the home directory in place of a tilde. -/
def expand (home : Option String) (c : Config) : Config :=
  { c with organizationsPath := c.organizationsPath.map (expandHome home) }

/-- The configuration, if the file of organizations that it names is there. -/
def findOrganizations (fs : FileSystem Id) (c : Config) : Except ConfigError Config :=
  match c.organizationsPath with
  | none => .ok c
  | some path => if Id.run (fs.has path) then .ok c else .error (.organizationsNotFound path)

/-- What loading comes to once the settings of the file are there. -/
def ofSource (fs : FileSystem Id) (home : Option String) (env : Environment)
    (source : List (String × Setting)) : Except ConfigError Config :=
  (ofLayers [source, env.settings]).bind fun c =>
    (check (expand home c)).bind (findOrganizations fs)

variable {ε α β : Type}

theorem run_bind (x : ExceptT ε Id α) (f : α → ExceptT ε Id β) :
    (ExceptT.run (m := Id) (x >>= f) : Except ε β) =
      Except.bind (ExceptT.run (m := Id) x) fun a => ExceptT.run (m := Id) (f a) := by
  cases made : (ExceptT.run (m := Id) x : Except ε α) with
  | error e =>
    rw [show x = ExceptT.mk (m := Id) (.error e) from made]
    rfl
  | ok a =>
    rw [show x = ExceptT.mk (m := Id) (.ok a) from made]
    rfl

theorem run_lift (x : Except ConfigError α) :
    (ExceptT.run (m := Id) (liftM x : ExceptT ConfigError Id α) : Except ConfigError α) = x := by
  cases x <;> rfl

/-- The file decides first, then what it and the environment come to together. -/
theorem loaded_eq (fs : FileSystem Id) (home : Option String) (env : Environment)
    (path : Option String) :
    loaded fs home env path = (fileSettings fs home path).bind (ofSource fs home env) := by
  -- the part of the load after the file, whether or not there is one
  have rest : ∀ source, (ExceptT.run (m := Id) ((do
      let c ← liftM (ofLayers [source, env.settings])
      let c ← liftM (check (expand home c))
      match c.organizationsPath with
      | none => return c
      | some path => if ← fs.has path then return c else throw (.organizationsNotFound path)) :
        ExceptT ConfigError Id Config) : Except ConfigError Config) =
          ofSource fs home env source := by
    intro source
    rw [run_bind, run_lift]
    refine congrArg (Except.bind _) (funext fun c => ?_)
    rw [run_bind, run_lift]
    refine congrArg (Except.bind _) (funext fun c => ?_)
    unfold findOrganizations
    cases c.organizationsPath with
    | none => rfl
    | some path =>
      show ExceptT.run (m := Id) (if Id.run (fs.has path) then pure c
        else throw (ConfigError.organizationsNotFound path)) =
          if Id.run (fs.has path) then .ok c else .error (ConfigError.organizationsNotFound path)
      split <;> rfl
  unfold loaded load fileSettings
  rw [run_bind, run_bind]
  cases (ExceptT.run (m := Id) (findFile fs home path) : Except ConfigError (Option String)) with
  | error e => rfl
  | ok found =>
    cases found with
    | none => exact rest []
    | some p =>
      show ExceptT.run (m := Id) (readFile fs p >>= _) = _
      rw [run_bind]
      exact congrArg (Except.bind _) (funext rest)

/-- A configuration that a service can be run with, its file of organizations being there. -/
structure IsUsable (fs : FileSystem Id) (c : Config) : Prop where
  port_pos : 0 < c.server.port
  host_ne : c.server.host ≠ ""
  timing_pos : 0 < c.timingSeconds
  path_there : ∀ path, c.organizationsPath = some path →
    Text.trim path ≠ "" ∧ Id.run (fs.has path) = true

variable {fs : FileSystem Id} {home path : Option String} {env : Environment} {c c' : Config}

theorem bind_eq_ok {x : Except ConfigError α} {f : α → Except ConfigError β} {b : β} :
    x.bind f = .ok b ↔ ∃ a, x = .ok a ∧ f a = .ok b :=
  Json.bind_eq_ok_iff

theorem findOrganizations_eq_ok : findOrganizations fs c = .ok c' ↔
    c = c' ∧ ∀ path, c.organizationsPath = some path → Id.run (fs.has path) = true := by
  unfold findOrganizations
  split
  · next unnamed => simp [unnamed]
  · next path named =>
    split_ifs with there
    · simpa [named] using fun _ => there
    · simp [named, there]

theorem findOrganizations_of_missing (c : Config) {path : String}
    (named : c.organizationsPath = some path) (missing : ¬ Id.run (fs.has path) = true) :
    findOrganizations fs c = .error (.organizationsNotFound path) := by
  rw [findOrganizations, named]
  exact if_neg missing

theorem check_bind_eq_ok : (check c).bind (findOrganizations fs) = .ok c' ↔
    c = c' ∧ c.IsUsable fs := by
  simp only [bind_eq_ok, check_eq_ok_iff, findOrganizations_eq_ok]
  constructor
  · rintro ⟨c, ⟨rfl, port, host, timing, nonblank⟩, rfl, there⟩
    exact ⟨rfl, UInt16.pos_iff_ne_zero.2 port, host, UInt64.pos_iff_ne_zero.2 timing,
      fun path named => ⟨nonblank path named, there path named⟩⟩
  · rintro ⟨rfl, usable⟩
    exact ⟨c, ⟨rfl, UInt16.pos_iff_ne_zero.1 usable.port_pos, usable.host_ne,
      UInt64.pos_iff_ne_zero.1 usable.timing_pos,
      fun path named => (usable.path_there path named).1⟩,
      rfl, fun path named => (usable.path_there path named).2⟩

/-- A load succeeds if there is a configuration in the settings and a service can be run with it. -/
theorem loaded_eq_ok_iff : loaded fs home env path = .ok c ↔
    ∃ source read, fileSettings fs home path = .ok source ∧
      ofLayers [source, env.settings] = .ok read ∧ c = expand home read ∧ c.IsUsable fs := by
  rw [loaded_eq, bind_eq_ok]
  constructor
  · rintro ⟨source, ofFile, h⟩
    obtain ⟨read, combined, h⟩ := bind_eq_ok.1 h
    obtain ⟨rfl, usable⟩ := check_bind_eq_ok.1 h
    exact ⟨source, read, ofFile, combined, rfl, usable⟩
  · rintro ⟨source, read, ofFile, combined, rfl, usable⟩
    exact ⟨source, ofFile, bind_eq_ok.2 ⟨read, combined, check_bind_eq_ok.2 ⟨rfl, usable⟩⟩⟩

/-- A file of settings where it is looked for first. -/
def settingsFile (text : String) : FileSystem Id :=
  FileTree.fileSystem { files := [(["skip-cla.toml"], text.toUTF8.toList)] }

theorem eq_ok_of_toOption {x : Except ε α} {a : α} (h : x.toOption = some a) :
    x = .ok a := by
  cases x with
  | error e => cases h
  | ok b => exact congrArg _ (Option.some.inj h)

end ClaExemption.Config
