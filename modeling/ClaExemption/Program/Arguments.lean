import ClaExemption.Config.Environment
import ClaExemption.Number.Read

/-!
# The command line

Options of the command line, each of which may be given once, and as an
environment variable if it is not given.
-/

namespace ClaExemption

/-- What the command line sets. -/
structure Arguments where
  config : Option String := none
  logLevel : Option String := none
  transport : Option String := none
  httpHost : Option String := none
  httpPort : Option UInt16 := none
  organizations : Option String := none
deriving DecidableEq, Repr

/-- Why the program does not start although nothing has failed. -/
inductive UsageStop where
  /-- The command line makes no sense. -/
  | misused
  | help
  | version
deriving DecidableEq, Repr

namespace Arguments

/-- An option: its name, the environment variable that stands in for it, whether it has been given,
and how its value is set, if that can be read. -/
structure Switch where
  name : String
  /-- One letter for it. -/
  letter : Option Char := none
  environmentName : String
  given : Arguments → Bool
  set : Arguments → String → Option Arguments

/-- The number of a port. -/
def port? (s : String) : Option UInt16 := do
  let n ← Number.int64? s.toList
  if 0 ≤ n ∧ n < UInt16.size then some (UInt16.ofNat n.toNat) else none

/-- The options. -/
def switches : List Switch :=
  [{ name := "config", letter := some 'c', environmentName := "SKIP_CLA_CONFIG"
     given := (·.config.isSome), set := fun a v => some { a with config := some v } },
   { name := "log-level", environmentName := "SKIP_CLA_LOG_LEVEL"
     given := (·.logLevel.isSome), set := fun a v => some { a with logLevel := some v } },
   { name := "transport", environmentName := "SKIP_CLA_TRANSPORT"
     given := (·.transport.isSome), set := fun a v => some { a with transport := some v } },
   { name := "http-host", environmentName := "SKIP_CLA_HTTP_HOST"
     given := (·.httpHost.isSome), set := fun a v => some { a with httpHost := some v } },
   { name := "http-port", environmentName := "SKIP_CLA_HTTP_PORT"
     given := (·.httpPort.isSome)
     set := fun a v => (port? v).map fun port => { a with httpPort := some port } },
   { name := "organizations", environmentName := "SKIP_CLA_ORGANIZATIONS"
     given := (·.organizations.isSome)
     set := fun a v => some { a with organizations := some v } }]

/-- Gives a value to an option, once. -/
def assign (a : Arguments) (s : Switch) (value : String) : Except UsageStop Arguments :=
  if s.given a then .error .misused
  else
    match s.set a value with
    | some a => .ok a
    | none => .error .misused

/-- What a word of the command line is. -/
inductive Word where
  /-- An option, and its value if that is part of the word. -/
  | option (s : Switch) (value : Option String)
  | stop (reason : UsageStop)
  /-- The end of the options. -/
  | terminator

/-- The word after two hyphens: a name, and perhaps a value after an equals sign. -/
def longWord (s : List Char) : Word :=
  let (name, rest) := s.span (· != '=')
  let name := String.ofList name
  match switches.find? (·.name == name), rest with
  | some s, '=' :: value => .option s (some (String.ofList value))
  | some s, _ => .option s none
  | none, [] =>
    if name = "help" then .stop .help
    else if name = "version" then .stop .version
    else .stop .misused
  | none, _ => .stop .misused

/-- The word after one hyphen: a letter, and perhaps a value, with or without an equals sign. -/
def shortWord (letter : Char) (rest : List Char) : Word :=
  match switches.find? (·.letter == some letter) with
  | some s =>
    match rest with
    | [] => .option s none
    | '=' :: value => .option s (some (String.ofList value))
    | value => .option s (some (String.ofList value))
  | none =>
    if letter = 'h' then .stop .help
    else if letter = 'V' then .stop .version
    else .stop .misused

/-- What a word of the command line is. -/
def Word.of (s : String) : Word :=
  match s.toList with
  | ['-', '-'] => .terminator
  | '-' :: '-' :: rest => longWord rest
  | '-' :: letter :: rest => shortWord letter rest
  | _ => .stop .misused

/-- Whether a word can be the value of the option before it: it does not look like an option. -/
def isValue (s : String) : Bool :=
  match s.toList with
  | '-' :: _ :: _ => false
  | _ => true

/-- Reads the words of the command line. -/
def parse (a : Arguments) : List String → Except UsageStop Arguments
  | [] => .ok a
  | word :: words =>
    match Word.of word with
    | .stop reason => .error reason
    | .terminator => if words.isEmpty then .ok a else .error .misused
    | .option s (some value) => (a.assign s value).bind fun a => parse a words
    | .option s none =>
      match words with
      | value :: words =>
        if isValue value then (a.assign s value).bind fun a => parse a words
        else .error .misused
      | [] => .error .misused

/-- Sets the options that have not been given from the environment. -/
def fromEnvironment (env : Environment) (a : Arguments) : Except UsageStop Arguments :=
  switches.foldlM (fun a s =>
    if s.given a then .ok a
    else
      match env.lookup s.environmentName with
      | some value => a.assign s value
      | none => .ok a) a

/-- The options that a command line and an environment give. -/
def read (env : Environment) (words : List String) : Except UsageStop Arguments :=
  (parse {} words).bind (fromEnvironment env)

end Arguments

end ClaExemption
