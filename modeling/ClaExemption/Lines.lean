import ClaExemption.Arrival
import ClaExemption.Text.Blank
import ClaExemption.Wire.Decode
import ClaExemption.Wire.Encode

/-!
# Requests line by line

A stream of bytes is cut after every line feed, and each line that is not blank
is answered by one line: the decision, or an object with an error and the id of
the request. `Lines.serve` answers a whole stream, and no line changes how
another one is answered.
-/

namespace ClaExemption.Lines

open Json

/-- The byte that ends a line. -/
def lineFeed : UInt8 := 0x0a

/-- The lines of a stream, each with the line feed that ends it; the last one may lack it. -/
def cut (stream : List UInt8) : List (List UInt8) := Text.splitAfter lineFeed stream

/-- What a line holds. -/
inductive Line where
  /-- Nothing but white space. -/
  | blank
  /-- A text, without the white space around it. -/
  | text (chars : List Char)
  /-- Bytes that are not UTF-8. -/
  | undecodable (flaw : Text.Utf8.Flaw)

/-- Reads the bytes of a line. -/
def Line.ofBytes (bytes : List UInt8) : Line :=
  match Text.Utf8.decode bytes with
  | .error flaw => .undecodable flaw
  | .ok chars =>
    match Text.trimChars chars with
    | [] => .blank
    | trimmed => .text trimmed

/-- The message about a line that is no request. -/
def invalidMessage (reason : String) : String := "Invalid message format: " ++ reason

/-- The message about a line that is not UTF-8. -/
def undecodableMessage (flaw : Text.Utf8.Flaw) : String :=
  invalidMessage ("line is not valid UTF-8: " ++ flaw.message)

/-- The answer to a request that has no decision. -/
def errorAnswer (message requestId : String) : Value :=
  .object [("error", .text message), ("request_id", .text requestId)]

/-- Answers with an error, and logs it. -/
def refuse (s : Service) (arrival : Arrival) (event message : String) : Value × Service :=
  (errorAnswer message arrival.freshId,
    s.log { level := .warn, message := event, details := [("error", .text message)] })

/-- Answers the text of a line; none if the clock runs out. -/
def answerText (s : Service) (arrival : Arrival) (chars : List Char) :
    Option (Value × Service) :=
  match decodeText Wire.decodeRequest (chars.map some) with
  | .error f =>
    some (refuse s arrival "rejecting malformed request line" (invalidMessage f.message))
  | .ok request => do
    match ← s.check arrival.moment arrival.freshId request with
    | (.ok decision, s) => return (Wire.encodeDecision decision, s)
    | (.error e, s) => return refuse s arrival "allowlist check failed" e.message

/-- Answers a line, unless it is blank; none if the clock runs out. -/
def answer (s : Service) (arrival : Arrival) (bytes : List UInt8) :
    Option (Option Value × Service) :=
  match Line.ofBytes bytes with
  | .blank => some (none, s)
  | .undecodable flaw =>
    let (value, s) :=
      refuse s arrival "rejecting undecodable request line" (undecodableMessage flaw)
    some (some value, s)
  | .text chars => do
    let (value, s) ← answerText s arrival chars
    return (some value, s)

/-- The answers to a stream. -/
structure Served where
  /-- The answers, in the order of their lines. -/
  answers : List Value
  /-- The service afterwards. -/
  service : Service
  /-- Whether the stream was answered to its end, and not only as far as the clock went. -/
  finished : Bool

/-- Answers lines, of which the first one has the given index among the arrivals. -/
def serveFrom (arrivals : Nat → Arrival) : Nat → Service → List (List UInt8) → Served
  | _, s, [] => ⟨[], s, true⟩
  | i, s, line :: lines =>
    match answer s (arrivals i) line with
    | none => ⟨[], s, false⟩
    | some (value, s) =>
      let served := serveFrom arrivals (i + 1) s lines
      { served with answers := value.toList ++ served.answers }

/-- Answers a stream. -/
def serve (arrivals : Nat → Arrival) (s : Service) (stream : List UInt8) : Served :=
  serveFrom arrivals 0 s (cut stream)

/-- The answers as lines of text. -/
def Served.output (served : Served) : String :=
  String.join (served.answers.map fun value => value.render ++ "\n")

end ClaExemption.Lines
