import ClaExemption.Number.Read
import ClaExemption.Number.Shortest
import ClaExemption.Setting.Basic
import ClaExemption.Text.Lowercase

/-!
# Settings as values

A setting of one kind is taken for another where its meaning is clear: words for
truth values, numbers written as text, and the text of anything but tables and
lists.
-/

namespace ClaExemption.Setting

/-- Words for true, in lower case. -/
def trueWords : List String := ["true", "on", "yes"]

/-- Words for false, in lower case. -/
def falseWords : List String := ["false", "off", "no"]

/-- The truth value that a setting is. -/
def toBool? : Setting → Option Bool
  | .flag b => some b
  | .integer n => some (n != 0)
  | .fraction x => some (x != 0.0)
  | .text s =>
    let word := Text.lowercase s
    if word ∈ "1" :: trueWords then some true
    else if word ∈ "0" :: falseWords then some false
    else none
  | _ => none

/-- A natural number that fits 64 bits. -/
def natural64? (n : Int) : Option UInt64 :=
  if 0 ≤ n ∧ n < UInt64.size then some (UInt64.ofNat n.toNat) else none

/-- The natural number of 64 bits that a setting is. A fraction is rounded, a half away from zero,
and taken to the nearest number in range. -/
def toUInt64? : Setting → Option UInt64
  | .flag b => some (if b then 1 else 0)
  | .integer n => natural64? n
  | .fraction x => some x.round.toUInt64
  | .text s =>
    let word := Text.lowercase s
    if word ∈ trueWords then some 1
    else if word ∈ falseWords then some 0
    else (Number.natural? s.toList).bind fun n => natural64? n
  | _ => none

/-- The natural number of 16 bits that a setting is. -/
def toUInt16? (s : Setting) : Option UInt16 := do
  let n ← s.toUInt64?
  if n.toNat < UInt16.size then some n.toUInt16 else none

/-- The text that a setting is. -/
def toText? : Setting → Option String
  | .text s => some s
  | .flag b => some (if b then "true" else "false")
  | .integer n => some (toString n)
  | .fraction x => some (Number.plainText x)
  | _ => none

/-- The value of a setting that may be missing. -/
def toOption? {α : Type} (read : Setting → Option α) : Setting → Option (Option α)
  | .nothing => some none
  | s => (read s).map some

/-- The choice that a setting names: by a text, or by the only key of a table. -/
def toChoice? {α : Type} (choices : List (String × α)) : Setting → Option α
  | .text name => choices.lookup name
  | .table [(name, _)] => choices.lookup name
  | _ => none

/-- A part of a record that a setting may give. -/
structure Part (α : Type) where
  name : String
  read : Setting → α → Option α

/-- A part whose setting is converted and then put into the record. -/
def Part.of {α β : Type} (name : String) (convert : Setting → Option β) (put : α → β → α) :
    Part α :=
  ⟨name, fun s record => (convert s).map (put record)⟩

/-- The record that a table of settings gives by names, or a list in order. Parts that are not given
stay as they are. -/
def readParts {α : Type} (parts : List (Part α)) (record : α) : Setting → Option α
  | .table entries =>
    parts.foldlM (fun record part =>
      match entries.lookup part.name with
      | some s => part.read s record
      | none => some record) record
  | .list items => (parts.zip items).foldlM (fun record (part, s) => part.read s record) record
  | _ => none

end ClaExemption.Setting
