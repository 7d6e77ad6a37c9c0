import ClaExemption.Config.EnvFile
import ClaExemption.Config.Load
import ClaExemption.Program.Arguments

/-!
# Starting the program

`Program.start` reads the command line, the configuration and the records of
organizations, and gives back a service and the way that requests reach it, or
else why the program stops.
-/

namespace ClaExemption.Program

/-- Why the program stops before it serves anything. -/
inductive Stop where
  | usage (reason : UsageStop)
  | config (e : ConfigError)
  /-- The address to bind to is none. -/
  | address

/-- The text that a stop is reported by, if it is a failure. -/
def Stop.message? : Stop → Option String
  | .usage _ => none
  | .config e => some e.message
  | .address => some Address.malformedMessage

/-- The exit status of a stop. -/
def Stop.exitStatus : Stop → Nat
  | .usage .misused => 2
  | .usage _ => 0
  | _ => 1

/-- The exit status of a program whose clock has run out. -/
def clockExitStatus : Nat := 101

/-- The line that tells the version. -/
def versionLine : String := programName ++ " " ++ programVersion

/-- What the program is about to do. -/
inductive Run where
  /-- Answer the lines of the standard input. -/
  | lines (s : Service)
  /-- Answer calls that reach an address. -/
  | http (s : Service) (endpoint : Address.Endpoint)

/-- The transport that a word of the command line names; one that names none is ignored. -/
def transportOf (config : Config) (word : Option String) : Transport :=
  match word with
  | some "stdio" => .stdio
  | some "http" => .http
  | _ => config.server.transport

/-- The home directory in an environment. -/
def homeOf (env : Environment) : Option String := (env.lookup "HOME").filter (· ≠ "")

/-- The name of the file with further variables. -/
def envFileName : String := ".env"

variable {m : Type → Type} [Monad m]

/-- The environment with the variables of the file added, if there is one. -/
def extendEnvironment (fs : FileSystem m) (env : Environment) : m Environment := do
  if ← fs.hasFile envFileName then
    match ← fs.read envFileName with
    | .ok bytes => return EnvFile.addTo env bytes
    | .error _ => return env
  else return env

/-- The registry of the file at a path, or an empty one. -/
def loadRegistry (fs : FileSystem m) (path : Option String) :
    ExceptT ConfigError m (Registry × Log) :=
  match path with
  | some path => Registry.load fs path
  | none => return (.empty, [])

/-- What the program is to do with a service. -/
def runOf (a : Arguments) (config : Config) (s : Service) : Except Stop Run :=
  match transportOf config a.transport with
  | .stdio => .ok (.lines s)
  | .http =>
    match Address.Endpoint.ofHost? (a.httpHost.getD config.server.host)
        (a.httpPort.getD config.server.port) with
    | some endpoint => .ok (.http s endpoint)
    | none => .error .address

/-- Starts the program. -/
def start (fs : FileSystem m) (env : Environment) (words : List String) : ExceptT Stop m Run := do
  let env ← (extendEnvironment fs env : m Environment)
  let a ← ExceptT.mk (pure ((Arguments.read env words).mapError Stop.usage))
  let config ← (Config.load fs (homeOf env) env a.config).adapt .config
  let (registry, log) ←
    (loadRegistry fs (a.organizations.or config.organizationsPath)).adapt .config
  ExceptT.mk (pure (runOf a config (.ofConfig config registry .logging log)))

end ClaExemption.Program
