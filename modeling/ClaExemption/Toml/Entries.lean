import ClaExemption.Setting.Basic
import ClaExemption.Toml.Key

/-!
# Tables of TOML documents

A table may be opened by a header, be implied by the headers of tables inside
it, or come about by dotted keys, and may be extended accordingly: no table is
opened twice, and dotted keys add only to tables of dotted keys.
-/

namespace ClaExemption.Toml

/-- How a table came about. -/
inductive TableKind where
  /-- By a header of its own. -/
  | opened
  /-- By the header of a table inside it. -/
  | implied
  /-- By dotted keys. -/
  | dotted
deriving DecidableEq, Repr

/-- What stands under a key. -/
inductive Item where
  /-- A value, which cannot be extended. -/
  | value (v : Setting)
  | table (kind : TableKind) (entries : List (String × Item))
  /-- Tables opened one after another under the same key. -/
  | tables (elements : List (List (String × Item)))

/-- The entries of a table, in the order in which they came about. -/
abbrev Entries := List (String × Item)

namespace Entries

/-- Replaces what stands under a key, or adds it. -/
def insert (es : Entries) (key : String) (item : Item) : Entries :=
  match es with
  | [] => [(key, item)]
  | (k, i) :: rest =>
    if k = key then (key, item) :: rest else (k, i) :: Entries.insert rest key item

/-- Changes the last of some tables. -/
def onLast (f : Entries → Option Entries) : List Entries → Option (List Entries)
  | [] => none
  | [es] => (f es).map ([·])
  | es :: rest => (onLast f rest).map (es :: ·)

/-- Puts an item under a dotted key that leads through tables; `extensible` tells whether dotted
keys may add to this table. -/
def put (key : String) (item : Item) : Bool → List String → Entries → Option Entries
  | extensible, [], es =>
    if extensible && (es.lookup key).isNone then some (es.insert key item) else none
  | _, part :: path, es =>
    match es.lookup part with
    | none => (put key item true path []).map fun sub => es.insert part (.table .dotted sub)
    | some (.table .opened _) => none
    | some (.table kind sub) =>
      (put key item (kind = .dotted) path sub).map fun sub => es.insert part (.table kind sub)
    | some (.tables elements) =>
      (onLast (put key item false path) elements).map fun elements =>
        es.insert part (.tables elements)
    | some (.value _) => none

/-- Changes the table that a header's path leads to. -/
def descend (f : Entries → Option Entries) : List String → Entries → Option Entries
  | [], es => f es
  | part :: path, es =>
    match es.lookup part with
    | none => (descend f path []).map fun sub => es.insert part (.table .implied sub)
    | some (.table kind sub) => (descend f path sub).map fun sub => es.insert part (.table kind sub)
    | some (.tables elements) =>
      (onLast (descend f path) elements).map fun elements => es.insert part (.tables elements)
    | some (.value _) => none

/-- Opens a table and fills it. -/
def openTable (fill : Entries → Option Entries) (key : String) (es : Entries) : Option Entries :=
  match es.lookup key with
  | none => (fill []).map fun sub => es.insert key (.table .opened sub)
  | some (.table .implied sub) => (fill sub).map fun sub => es.insert key (.table .opened sub)
  | some _ => none

/-- Opens one more of the tables under a key and fills it. -/
def openElement (fill : Entries → Option Entries) (key : String) (es : Entries) : Option Entries :=
  match es.lookup key with
  | none => (fill []).map fun sub => es.insert key (.tables [sub])
  | some (.tables elements) =>
    (fill []).map fun sub => es.insert key (.tables (elements ++ [sub]))
  | some _ => none

end Entries

mutual

/-- The setting that an item is. -/
def Item.setting : Item → Setting
  | .value v => v
  | .table _ entries => .table (Entries.settings entries)
  | .tables elements => .list (Entries.settingsOfAll elements)

/-- The settings of the entries of a table. -/
def Entries.settings : List (String × Item) → List (String × Setting)
  | [] => []
  | (key, item) :: rest => (key, item.setting) :: Entries.settings rest

/-- The settings of tables under the same key. -/
def Entries.settingsOfAll : List (List (String × Item)) → List Setting
  | [] => []
  | entries :: rest => .table (Entries.settings entries) :: Entries.settingsOfAll rest

end

end ClaExemption.Toml
