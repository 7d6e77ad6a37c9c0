import ClaExemption.Json.Read
import ClaExemption.Json.Value
import ClaExemption.Text.Quoted

/-!
# Decoding JSON

A decoder walks a tree from left to right and fails at the first thing that it
does not expect, be it a value of another kind or a flaw of the text. Records
are decoded by the list of their fields (`Record.decode`), from an object or
from a sequence of the fields' values in order; choices between names by
`decodeChoice`.
-/

namespace ClaExemption.Json

/-- What is found where something else is expected. -/
inductive Found where
  | null
  | bool (b : Bool)
  | integer (n : Int)
  | fraction (x : Float)
  | text (s : String)
  | sequence
  | map

/-- What is wrong with a value that is JSON. -/
inductive Mismatch where
  /-- It is of another kind than expected. -/
  | kind (found : Found) (expected : String)
  /-- It is of the right kind but out of range. -/
  | range (found : Found) (expected : String)
  /-- It names none of the choices. -/
  | variant (name : String) (choices : List String)
  | missing (field : String)
  | duplicate (field : String)
  /-- It has another number of items than expected. -/
  | length (n : Nat) (expected : String)

/-- One step from a value to a part of it. -/
inductive Step where
  | member (name : String)
  | item (index : Nat)
deriving DecidableEq, Repr

/-- Why a text does not decode. -/
inductive Failure where
  | fault (f : Fault)
  /-- A value does not fit, at this place below the root. -/
  | mismatch (path : List Step) (m : Mismatch)

/-! ## Descriptions -/

/-- Encloses a name in backticks. -/
def ticked (s : String) : String := "`" ++ s ++ "`"

/-- The description of what is found. -/
def Found.message : Found → String
  | .null => "null"
  | .bool b => "boolean " ++ ticked (if b then "true" else "false")
  | .integer n => "integer " ++ ticked (toString n)
  | .fraction x => "floating point " ++ ticked (Number.markedText x)
  | .text s => "string " ++ Text.Quoted.encode s
  | .sequence => "sequence"
  | .map => "map"

/-- The choices, as a message lists them. -/
def choicesMessage : List String → String
  | [a] => ticked a
  | [a, b] => ticked a ++ " or " ++ ticked b
  | names => "one of " ++ ", ".intercalate (names.map ticked)

/-- The description of a mismatch. -/
def Mismatch.message : Mismatch → String
  | .kind found expected => "invalid type: " ++ found.message ++ ", expected " ++ expected
  | .range found expected => "invalid value: " ++ found.message ++ ", expected " ++ expected
  | .variant name choices =>
    "unknown variant " ++ ticked name ++ ", expected " ++ choicesMessage choices
  | .missing field => "missing field " ++ ticked field
  | .duplicate field => "duplicate field " ++ ticked field
  | .length n expected => "invalid length " ++ toString n ++ ", expected " ++ expected

/-- The place of a part below the root. -/
def pathMessage : List Step → String
  | [] => ""
  | .member name :: rest => rest.foldl add name
  | .item i :: rest => rest.foldl add (index i)
where
  /-- The text of an index. -/
  index (i : Nat) : String := "[" ++ toString i ++ "]"
  /-- Adds a step to a path. -/
  add (acc : String) : Step → String
    | .member name => acc ++ "." ++ name
    | .item i => acc ++ index i

/-- The description of a fault, of which only the kind is told. -/
def Fault.message : Fault → String
  | .ended => "<eof>"
  | .malformed => "<syntax>"

/-- The description of a failure, without its place. -/
def Failure.message : Failure → String
  | .fault f => f.message
  | .mismatch _ m => m.message

/-- The description of a failure with its place, if that lies below the root. -/
def Failure.placedMessage : Failure → String
  | .fault f => f.message
  | .mismatch [] m => m.message
  | .mismatch path m => pathMessage path ++ ": " ++ m.message

/-! ## Decoders -/

/-- Where a tree comes from: a text that is being decoded, or a value that has already been read
in full and whose members are in the order of their names. -/
inductive Origin where
  | text
  | value
deriving DecidableEq, Repr

/-- A way to decode trees. -/
abbrev Decoder (α : Type) := Origin → Node → Except Failure α

/-- Puts a step in front of the place of a failure. -/
def Failure.below (step : Step) : Failure → Failure
  | .fault f => .fault f
  | .mismatch path m => .mismatch (step :: path) m

/-- A result of decoding a part. -/
def inside {α : Type} (step : Step) (result : Except Failure α) : Except Failure α :=
  result.mapError (Failure.below step)

/-- A failure at the value itself. -/
def mismatch {α : Type} (m : Mismatch) : Except Failure α := .error (.mismatch [] m)

/-- What a tree is found to be; a flaw is found instead where the description would need it. -/
def Node.found : Node → Except Fault Found
  | .null => .ok .null
  | .bool b => .ok (.bool b)
  | .number (.natural n) => .ok (.integer n.toNat)
  | .number (.negative n) => .ok (.integer n.toInt)
  | .number (.fraction x) => .ok (.fraction x)
  | .number .outOfRange => .error .malformed
  | .text content => content.map .text
  | .array _ _ => .ok .sequence
  | .object _ _ => .ok .map
  | .oddObject _ => .ok .map
  | .flaw wanted _ => .error wanted

/-- Fails because the tree is not of the kind expected. -/
def unexpected {α : Type} (expected : String) (node : Node) : Except Failure α :=
  match node.found with
  | .ok found => mismatch (.kind found expected)
  | .error f => .error (.fault f)

/-- Succeeds unless the text stopped at a flaw. -/
def finish {α : Type} (stop : Option Fault) (result : Except Failure α) : Except Failure α :=
  match stop with
  | some f => .error (.fault f)
  | none => result

/-- Decodes a text. -/
def decodeString : Decoder String := fun _ node =>
  match node with
  | .text (.ok s) => .ok s
  | _ => unexpected "a string" node

/-- Decodes a truth value. -/
def decodeBool : Decoder Bool := fun _ node =>
  match node with
  | .bool b => .ok b
  | _ => unexpected "a boolean" node

/-- Decodes a signed integer of 64 bits. -/
def decodeInt64 : Decoder Int64 := fun _ node =>
  match node with
  | .number (.natural n) =>
    if n.toNat < 0x8000000000000000 then .ok (Int64.ofNat n.toNat)
    else mismatch (.range (.integer n.toNat) "i64")
  | .number (.negative n) => .ok n
  | _ => unexpected "i64" node

/-- Decodes an unsigned integer of 64 bits. -/
def decodeUInt64 : Decoder UInt64 := fun _ node =>
  match node with
  | .number (.natural n) => .ok n
  | .number (.negative n) => mismatch (.range (.integer n.toInt) "u64")
  | _ => unexpected "u64" node

/-- Decodes `null` as nothing. -/
def decodeUnit : Decoder Unit := fun _ node =>
  match node with
  | .null => .ok ()
  | _ => unexpected "unit" node

/-- Decodes a value that may be `null`. -/
def decodeOption {α : Type} (d : Decoder α) : Decoder (Option α) := fun origin node =>
  match node with
  | .null => .ok none
  | _ => (d origin node).map some

/-- Decodes the items of a sequence from a given index on. -/
def decodeItems {α : Type} (d : Decoder α) (origin : Origin) (stop : Option Fault) :
    Nat → List Node → Except Failure (List α)
  | _, [] => finish stop (.ok [])
  | i, item :: items => do
    let first ← inside (.item i) (d origin item)
    return first :: (← decodeItems d origin stop (i + 1) items)

/-- Decodes a sequence. -/
def decodeList {α : Type} (d : Decoder α) : Decoder (List α) := fun origin node =>
  match node with
  | .array items stop => decodeItems d origin stop 0 items
  | _ => unexpected "a sequence" node

/-- Decodes the members of a map in their order. -/
def decodeMembers {α : Type} (d : Decoder α) (origin : Origin) (stop : Option Fault) :
    List (Except Fault String × Node) → Except Failure (List (String × α))
  | [] => finish stop (.ok [])
  | (.error f, _) :: _ => .error (.fault f)
  | (.ok name, value) :: members => do
    let first ← inside (.member name) (d origin value)
    return (name, first) :: (← decodeMembers d origin stop members)

/-- Decodes an object whose names are not known beforehand. -/
def decodeMap {α : Type} (d : Decoder α) : Decoder (List (String × α)) := fun origin node =>
  match node with
  | .object members stop => decodeMembers d origin stop members
  | .oddObject _ => .error (.fault .malformed)
  | _ => unexpected "a map" node

/-! ## Choices -/

/-- The value with a name. -/
def choose {α : Type} (choices : List (String × α)) (name : String) : Except Failure α :=
  match choices.find? (·.1 == name) with
  | some (_, value) => .ok value
  | none => mismatch (.variant name (choices.map (·.1)))

/-- Decodes one of some names: the name as a text, or as the only member of an object, with
`null` for its value. -/
def decodeChoice {α : Type} (choices : List (String × α)) : Decoder α := fun origin node =>
  match node, origin with
  | .text (.ok name), _ => choose choices name
  | .text (.error f), _ => .error (.fault f)
  | .object members stop, .text =>
    match members with
    | [] => .error (.fault (stop.getD .malformed))
    | (.error f, _) :: _ => .error (.fault f)
    | (.ok name, value) :: more => do
      let chosen ← choose choices name
      let _ ← decodeUnit origin value
      if more.isEmpty then finish stop (.ok chosen) else .error (.fault .malformed)
  | .object members _, .value =>
    match members with
    | [(.ok name, value)] => do
      let chosen ← choose choices name
      let _ ← decodeUnit origin value
      return chosen
    | _ => mismatch (.range .map "map with a single key")
  | .oddObject name, _ => unexpected "variant identifier" name
  | .flaw wanted _, _ => .error (.fault wanted)
  | _, .text => .error (.fault .malformed)
  | _, .value => unexpected "string or map" node

/-! ## Records -/

/-- A field of a record: its name, whether it must be there, and how its value is decoded into the
record. -/
structure Field (α : Type) where
  name : String
  required : Bool
  read : Origin → Node → α → Except Failure α

/-- A field whose value is decoded by a decoder and then put into the record. -/
def Field.of {α β : Type} (name : String) (required : Bool) (d : Decoder β) (set : α → β → α) :
    Field α :=
  ⟨name, required, fun origin node record => (d origin node).map (set record)⟩

/-- A record: its name, its fields in order, and the value whose fields have not been read. -/
structure Record (α : Type) where
  name : String
  fields : List (Field α)
  initial : α

namespace Record

variable {α : Type}

/-- Fails if a required field has not been read. -/
def complete (fields : List (Field α)) (seen : List String) (record : α) : Except Failure α :=
  match fields.find? fun f => f.required && !seen.contains f.name with
  | some f => mismatch (.missing f.name)
  | none => .ok record

/-- Reads the members of an object in their order. Members of other names are passed over. -/
def readMembers (fields : List (Field α)) (origin : Origin) (stop : Option Fault)
    (seen : List String) (record : α) :
    List (Except Fault String × Node) → Except Failure α
  | [] => finish stop (complete fields seen record)
  | (.error f, _) :: _ => .error (.fault f)
  | (.ok name, value) :: members =>
    match fields.find? (·.name == name) with
    | none =>
      match value.stop with
      | some f => .error (.fault f)
      | none => readMembers fields origin stop seen record members
    | some field =>
      if seen.contains name then mismatch (.duplicate name)
      else do
        let record ← inside (.member name) (field.read origin value record)
        readMembers fields origin stop (name :: seen) record members

/-- Reads the items of a sequence as the fields in order. -/
def readItems (expected : String) (origin : Origin) (stop : Option Fault) (size : Nat) :
    List (Field α) → Nat → α → List Node → Except Failure α
  | [], _, record, [] => finish stop (.ok record)
  | [], _, _, _ :: _ =>
    match origin with
    | .text => .error (.fault .malformed)
    | .value => mismatch (.length size "fewer elements in array")
  | field :: fields, i, record, [] =>
    finish stop
      (if field.required then mismatch (.length i expected)
      else readItems expected origin stop size fields (i + 1) record [])
  | field :: fields, i, record, item :: items => do
    let record ← inside (.item i) (field.read origin item record)
    readItems expected origin stop size fields (i + 1) record items

/-- What a message calls a record. -/
def title (r : Record α) : String := "struct " ++ r.name

/-- Decodes a record. -/
def decode (r : Record α) : Decoder α := fun origin node =>
  match node with
  | .object members stop => readMembers r.fields origin stop [] r.initial members
  | .oddObject _ => .error (.fault .malformed)
  | .array items stop =>
    readItems (r.title ++ " with " ++ toString r.fields.length ++ " elements") origin stop
      items.length r.fields 0 r.initial items
  | _ => unexpected r.title node

end Record

/-- Decodes a whole text, after which only white space may follow. -/
def decodeText {α : Type} (d : Decoder α) (s : List Glyph) : Except Failure α := do
  let (node, atEnd) := Node.read s
  let value ← d .text node
  if atEnd then return value else .error (.fault .malformed)

/-- Decodes a whole text. -/
def decodeDocument {α : Type} (d : Decoder α) (s : String) : Except Failure α :=
  decodeText d (glyphsOfText s)

end ClaExemption.Json
