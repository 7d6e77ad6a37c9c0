import ClaExemption.Config.Basic
import ClaExemption.Config.Environment
import ClaExemption.Registry
import ClaExemption.Service
import ClaExemption.Setting.Path
import ClaExemption.Toml.Document
import ClaExemption.Wire.Decode

/-!
# Loading the configuration

`Config.load` combines the settings of a file with those of the environment,
which lie over them, and `Registry.load` reads the records of organizations.
-/

namespace ClaExemption

namespace Config

/-- The configuration that layers of settings give, the later ones over the earlier ones. -/
def ofLayers (sources : List (List (String × Setting))) : Except ConfigError Config :=
  match ofSetting? (layers sources) with
  | some c => .ok c
  | none => .error .malformed

/-- The configuration in the text of a file alone. -/
def ofText (text : String) : Except ConfigError Config :=
  match Toml.parse? text.toList with
  | some settings => (ofLayers [settings]).bind check
  | none => .error .malformed

/-- The paths where a file is looked for if none is given, in order. -/
def defaultPaths : List String :=
  ["skip-cla.toml", ".skip-cla.toml", "~/.config/skip-cla/config.toml",
   "/etc/skip-cla/config.toml"]

/-- The path of a file beside a directory, with the usual ending added. -/
def withEnding (path : String) : String :=
  String.ofList (path.toList.reverse.dropWhile (· == '/')).reverse ++ ".toml"

variable {m : Type → Type} [Monad m]

/-- The path of the file to read, if there is one; a path that is given has to be there. -/
def findFile (fs : FileSystem m) (home given : Option String) :
    ExceptT ConfigError m (Option String) := do
  match given with
  | some path =>
    if ← fs.has path then return some path else throw (.fileNotFound path)
  | none => fs.firstOf (defaultPaths.map (expandHome home))

/-- The settings in a file. Where the path is a directory, the file of the same path with the usual
ending is meant. -/
def readFile (fs : FileSystem m) (path : String) :
    ExceptT ConfigError m (List (String × Setting)) := do
  let path := if ← fs.hasFile path then path else withEnding path
  if ← fs.hasFile path then
    match ← fs.read path with
    | .error _ => throw .malformed
    | .ok bytes =>
      match Toml.parse? (Toml.dropMark (Text.Utf8.decodeLossy bytes)) with
      | some settings => return settings
      | none => throw .malformed
  else throw .malformed

/-- Loads the configuration from a file, at a given path or a default one, and the environment. The
file of organizations that it names has to be there. -/
def load (fs : FileSystem m) (home : Option String) (env : Environment) (given : Option String) :
    ExceptT ConfigError m Config := do
  let source ← match ← findFile fs home given with
    | some path => readFile fs path
    | none => pure []
  let c ← ofLayers [source, env.settings]
  let c := { c with organizationsPath := c.organizationsPath.map (expandHome home) }
  let c ← c.check
  match c.organizationsPath with
  | none => return c
  | some path => if ← fs.has path then return c else throw (.organizationsNotFound path)

end Config

/-- The registry of the records in a text, and the warnings about them. -/
def Registry.ofText (chars : List Char) : Except ConfigError (Registry × Log) :=
  match Json.decodeText Wire.decodeOrganizations (chars.map some) with
  | .ok orgs => .ok (Registry.ofList orgs)
  | .error failure => .error (.organizations failure)

/-- Loads the registry of the records in a file. -/
def Registry.load {m : Type → Type} [Monad m] (fs : FileSystem m) (path : String) :
    ExceptT ConfigError m (Registry × Log) := do
  match ← fs.readChars path with
  | .error e => throw (.file e)
  | .ok chars =>
    let (registry, log) ← Registry.ofText chars
    let entry : Entry :=
      { level := .info
        message := "Loaded organization records"
        details := [("path", .text path), ("organizations", .number registry.size)] }
    return (registry, log ++ [entry])

/-- The service that a configuration describes. -/
def Service.ofConfig (c : Config) (registry : Registry) (sink : Sink) (log : Log) : Service :=
  .start c.server.name c.server.version c.rules.grammar registry
    (.ofSeconds c.timingSeconds.toNat)
    ⟨if c.rules.cachePatterns then .fresh else .disabled, sink, log⟩

end ClaExemption
