import ClaExemption.Lines
import ClaExemption.Program.Start

/-!
# The program

Reads the surroundings, starts, and answers the lines of the standard input.
-/

namespace ClaExemption

/-- The cause of an error of the system. -/
def fileErrorOf (e : IO.Error) : FileError :=
  match e with
  | .noFileOrDirectory _ _ _ => .notFound
  | .inappropriateType _ code _ => if code = 20 then .notDirectory else .isDirectory
  | e => .other (toString e)

/-- Whether a file is read without an error. -/
def canRead (handle : IO.FS.Handle) : IO Bool := do
  try
    let _ ← handle.read 1
    return true
  catch _ => return false

/-- What there is at a path. A directory can be opened, but not read. -/
def kindOf (path : String) : IO PathKind := do
  try
    let handle ← IO.FS.Handle.mk path .read
    return if ← canRead handle then .file else .directory
  catch _ => return .missing

/-- The files of the machine. -/
def machineFiles : FileSystem IO where
  kind := kindOf
  read path := do
    try
      return .ok (← IO.FS.readBinFile path).toList
    catch e => return .error (fileErrorOf e)

/-- The variables in a list of assignments, each ended by a null byte. -/
def environmentOf (bytes : ByteArray) : Environment :=
  let text := String.ofList (Text.Utf8.decodeLossy bytes.toList)
  (Text.splitAt (Char.ofNat 0) text.toList).filterMap fun assignment =>
    (Text.cutFirst '=' assignment).map fun (name, value) =>
      (String.ofList name, String.ofList value)

/-- The environment of the program. -/
def readEnvironment : IO Environment := do
  try
    return environmentOf (← IO.FS.readBinFile "/proc/self/environ")
  catch _ => return []

/-- The second since the start of 1970 at which the machine was started, from the statistics that it
keeps. -/
def startSecond (statistics : String) : Nat :=
  let lines := Text.splitAt '\n' statistics.toList
  ((lines.findSome? (Text.afterStart? "btime ".toList)).bind Number.natural?).getD 0

/-- The second at which the machine was started. -/
def readStartSecond : IO Nat := do
  try
    return startSecond (← IO.FS.readFile "/proc/stat")
  catch _ => return 0

/-- What the surroundings add to a message at this time. -/
def arrivalNow (startedAt : Nat) : IO Arrival := do
  let now ← IO.monoNanosNow
  let random ← IO.getRandomBytes 8
  return {
    random := random.toList.foldl (fun n b => n * 256 + b.toUInt64) 0
    moment := ⟨now, now, UInt64.ofNat (startedAt + now / nanosPerSecond)⟩ }

/-- Reads a line with its end; empty at the end of the stream. -/
partial def readLine (input : IO.FS.Stream) (acc : List UInt8) : IO (List UInt8) := do
  let bytes ← input.read 1
  match bytes.toList with
  | [] => return acc.reverse
  | b :: _ =>
    if b = Lines.lineFeed then return (b :: acc).reverse else readLine input (b :: acc)

/-- Answers the lines of a stream one by one. -/
partial def answerLines (startedAt : Nat) (input output : IO.FS.Stream) (s : Service) :
    IO UInt32 := do
  let line ← readLine input []
  if line.isEmpty then return 0
  match Lines.answer s (← arrivalNow startedAt) line with
  | none => return UInt32.ofNat Program.clockExitStatus
  | some (value, s) =>
    if let some value := value then
      output.putStr (value.render ++ "\n")
      output.flush
    answerLines startedAt input output { s with session := { s.session with log := [] } }

/-- The text of the help. -/
def helpText : String :=
  "Usage: " ++ programName ++ " [OPTIONS]\n\nOptions:\n"
    ++ String.join (Arguments.switches.map fun s =>
      "  --" ++ s.name ++ " <VALUE>  [env: " ++ s.environmentName ++ "]\n")
    ++ "  --help\n  --version\n"

/-- Reports why the program stops. -/
def report (stop : Program.Stop) : IO UInt32 := do
  match stop with
  | .usage .help => IO.print helpText
  | .usage .version => IO.println Program.versionLine
  | .usage .misused => IO.eprint helpText
  | stop => IO.eprintln ("Error: " ++ stop.message?.getD "")
  return UInt32.ofNat stop.exitStatus

end ClaExemption

open ClaExemption in
/-- Runs the program. -/
def main (words : List String) : IO UInt32 := do
  match ← (Program.start machineFiles (← readEnvironment) words).run with
  | .error stop => report stop
  | .ok (.lines s) => answerLines (← readStartSecond) (← IO.getStdin) (← IO.getStdout) s
  | .ok (.http _ endpoint) => do
    IO.eprintln ("Error: nothing listens on " ++ endpoint.text ++ " for this program")
    return 1
