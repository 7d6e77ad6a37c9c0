/-!
# Settings

A setting is what a source of the configuration says under a key: a value, a
list, or a table of further settings. `Setting.set` puts a setting into a table
at a path; tables are combined entry by entry, and everything else replaces what
was there.
-/

namespace ClaExemption

/-- A setting of no fixed kind. -/
inductive Setting where
  | nothing
  | flag (b : Bool)
  | integer (n : Int)
  | fraction (x : Float)
  | text (s : String)
  | list (items : List Setting)
  | table (entries : List (String × Setting))
deriving Inhabited

/-- One step from a setting to a part of it. -/
inductive PathStep where
  | key (name : String)
  /-- Negative numbers count from the end. -/
  | index (i : Int)
deriving DecidableEq, Repr

namespace Setting

/-- The entries of a table. -/
def entries : Setting → List (String × Setting)
  | .table entries => entries
  | _ => []

/-- The items of a list. -/
def items : Setting → List Setting
  | .list items => items
  | _ => []

/-- Changes the entry under a key, which is made up as nothing if it is missing. -/
def updateKey (key : String) (f : Setting → Setting) :
    List (String × Setting) → List (String × Setting)
  | [] => [(key, f .nothing)]
  | (k, v) :: rest => if k = key then (k, f v) :: rest else (k, v) :: updateKey key f rest

/-- Changes the item at an index, before which missing ones are made up as nothing. -/
def updateIndex (f : Setting → Setting) : Nat → List Setting → List Setting
  | 0, [] => [f .nothing]
  | 0, item :: rest => f item :: rest
  | i + 1, [] => .nothing :: updateIndex f i []
  | i + 1, item :: rest => item :: updateIndex f i rest

/-- Changes the item at an index that may count from the end; a list that is too short for that is
extended at its front. -/
def updateAt (f : Setting → Setting) (i : Int) (list : List Setting) : List Setting :=
  if 0 ≤ i then updateIndex f i.toNat list
  else
    let missing := (-i).toNat - list.length
    updateIndex f (list.length + missing - (-i).toNat) (List.replicate missing .nothing ++ list)

/-- Changes the part at a path; whatever stands in the way is replaced by a table or a list. -/
def modify (f : Setting → Setting) : List PathStep → Setting → Setting
  | [], s => f s
  | .key name :: path, s => .table (updateKey name (modify f path) s.entries)
  | .index i :: path, s => .list (updateAt (modify f path) i s.items)

mutual

/-- Lays a setting over another one: a table adds its entries, and anything else takes its place. -/
def overlay : Setting → Setting → Setting
  | .table entries, below => .table (overlayEntries entries below.entries)
  | .nothing, _ => .nothing
  | .flag b, _ => .flag b
  | .integer n, _ => .integer n
  | .fraction x, _ => .fraction x
  | .text s, _ => .text s
  | .list items, _ => .list items

/-- Lays entries over those of a table, one after another. -/
def overlayEntries :
    List (String × Setting) → List (String × Setting) → List (String × Setting)
  | [], below => below
  | (key, value) :: rest, below => overlayEntries rest (updateKey key (overlay value) below)

end

/-- Puts a setting at a path. -/
def set (s : Setting) (path : List PathStep) (value : Setting) : Setting :=
  s.modify value.overlay path

end Setting

end ClaExemption
