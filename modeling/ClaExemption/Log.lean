/-!
# The program's log

Operations give back what they log, in order, as values.
-/

namespace ClaExemption

/-- How much an entry of the log matters. -/
inductive Level where
  | debug
  | info
  | warn
deriving DecidableEq, Repr

/-- A value attached to an entry. -/
inductive Detail where
  | text (s : String)
  | number (n : Nat)
  | flag (b : Bool)
deriving DecidableEq, Repr

/-- An entry of the log. -/
structure Entry where
  level : Level
  message : String
  details : List (String × Detail)
  /-- Whether the entry goes to the audit log. -/
  audit : Bool := false
deriving DecidableEq, Repr

/-- The entries logged, in order. -/
abbrev Log := List Entry

end ClaExemption
