import ClaExemption.Address.Read
import ClaExemption.Json.Decode
import ClaExemption.Files.Basic
import ClaExemption.Rule.Basic
import ClaExemption.Setting.Convert
import ClaExemption.Text.Blank
import ClaExemption.Timings

/-!
# The configuration

`Config` is what a run of the program can be set to, with the defaults that hold
for what no source sets. `Config.ofSetting?` reads it, and `Config.check` says
what is wrong with one that no service can be run with.
-/

namespace ClaExemption

/-- How requests come in. -/
inductive Transport where
  /-- One per line of the standard input. -/
  | stdio
  | http
deriving DecidableEq, Repr

/-- The name of a transport. -/
def Transport.name : Transport → String
  | .stdio => "stdio"
  | .http => "http"

/-- How the log is written. -/
inductive LogFormat where
  | pretty
  | json
deriving DecidableEq, Repr

/-- The name of a format. -/
def LogFormat.name : LogFormat → String
  | .pretty => "pretty"
  | .json => "json"

/-- The version of the program. -/
def programVersion : String := "0.1.0"

/-- The name of the program. -/
def programName : String := "skip-cla"

/-- How the service is reached and what it calls itself. -/
structure ServerConfig where
  transport : Transport := .stdio
  host : String := "127.0.0.1"
  port : UInt16 := Address.Endpoint.default.port
  name : String := programName
  version : String := programVersion
deriving DecidableEq, Repr

/-- How rules are read. -/
structure RulesConfig where
  grammar : Grammar := .extended
  /-- Whether compiled patterns are kept. -/
  cachePatterns : Bool := true
deriving DecidableEq, Repr

/-- How the log is kept. -/
structure LoggingConfig where
  level : String := "info"
  format : LogFormat := .pretty
deriving DecidableEq, Repr

/-- The configuration. -/
structure Config where
  server : ServerConfig := {}
  rules : RulesConfig := {}
  /-- The file with the records of organizations. -/
  organizationsPath : Option String := none
  /-- How many seconds the timing of a request is kept. -/
  timingSeconds : UInt64 := UInt64.ofNat Timings.defaultSeconds
  logging : LoggingConfig := {}
deriving DecidableEq, Repr

/-- Why there is no configuration, or no registry. -/
inductive ConfigError where
  /-- A source cannot be read as settings, or a setting not as what it sets. -/
  | malformed
  | fileNotFound (path : String)
  | organizationsNotFound (path : String)
  | zeroPort
  | emptyHost
  | zeroLifetime
  | blankOrganizationsPath
  /-- The records of organizations are not what they should be. -/
  | organizations (failure : Json.Failure)
  | file (e : FileError)

/-- The beginning of every message about a failure to load. -/
def loadFailure : String := "Failed to load configuration"

/-- The description of an error. -/
def ConfigError.message : ConfigError → String
  | .malformed => loadFailure
  | .fileNotFound path => loadFailure ++ ": Configuration file not found: " ++ path
  | .organizationsNotFound path => loadFailure ++ ": Organizations file not found: " ++ path
  | .zeroPort => "Invalid configuration: server.port must be greater than 0"
  | .emptyHost => "Missing required configuration: server.host"
  | .zeroLifetime => "Invalid configuration: metrics.ttl_secs must be greater than 0"
  | .blankOrganizationsPath =>
    "Invalid configuration: store.organizations_path must not be empty when set"
  | .organizations failure =>
    loadFailure ++ ": invalid organizations file: " ++ failure.message
  | .file e => "IO error: " ++ e.message

namespace Config

/-- The names of values, each with its value. -/
def named {α : Type} (name : α → String) (values : List α) : List (String × α) :=
  values.map fun v => (name v, v)

/-- The parts of how the service is reached. -/
def serverParts : List (Setting.Part ServerConfig) :=
  [.of "transport" (Setting.toChoice? (named Transport.name [.stdio, .http]))
     fun c transport => { c with transport },
   .of "host" Setting.toText? fun c host => { c with host },
   .of "port" Setting.toUInt16? fun c port => { c with port },
   .of "name" Setting.toText? fun c name => { c with name },
   .of "version" Setting.toText? fun c version => { c with version }]

/-- The parts of how rules are read. -/
def rulesParts : List (Setting.Part RulesConfig) :=
  [.of "grammar" (Setting.toChoice? (named Grammar.name [.extended, .simple]))
     fun c grammar => { c with grammar },
   .of "cache_patterns" Setting.toBool? fun c cachePatterns => { c with cachePatterns }]

/-- The part that names the file of organizations. -/
def storeParts : List (Setting.Part (Option String)) :=
  [.of "organizations_path" (Setting.toOption? Setting.toText?) fun _ path => path]

/-- The part that says how long timings are kept. -/
def metricsParts : List (Setting.Part UInt64) :=
  [.of "ttl_secs" Setting.toUInt64? fun _ secs => secs]

/-- The parts of how the log is kept. -/
def loggingParts : List (Setting.Part LoggingConfig) :=
  [.of "level" Setting.toText? fun c level => { c with level },
   .of "format" (Setting.toChoice? (named LogFormat.name [.pretty, .json]))
     fun c format => { c with format }]

/-- A section of the configuration, whose parts start out as in the default one. -/
def sectionPart {α : Type} (name : String) (parts : List (Setting.Part α)) (get : Config → α)
    (put : Config → α → Config) : Setting.Part Config :=
  .of name (Setting.readParts parts (get {})) put

/-- The sections of the configuration. -/
def sections : List (Setting.Part Config) :=
  [sectionPart "server" serverParts server fun c server => { c with server },
   sectionPart "allowlist" rulesParts rules fun c rules => { c with rules },
   sectionPart "store" storeParts organizationsPath fun c organizationsPath =>
     { c with organizationsPath },
   sectionPart "metrics" metricsParts timingSeconds fun c timingSeconds => { c with timingSeconds },
   sectionPart "logging" loggingParts logging fun c logging => { c with logging }]

/-- The configuration that settings give. -/
def ofSetting? (s : Setting) : Option Config := Setting.readParts sections {} s

/-- The configuration, unless no service can be run with it. -/
def check (c : Config) : Except ConfigError Config :=
  if c.server.port = 0 then .error .zeroPort
  else if c.server.host = "" then .error .emptyHost
  else if c.timingSeconds = 0 then .error .zeroLifetime
  else if c.organizationsPath.any fun path => Text.trim path = "" then
    .error .blankOrganizationsPath
  else .ok c

end Config

end ClaExemption
