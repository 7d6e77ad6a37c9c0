import ClaExemption.Decision
import ClaExemption.Lint
import ClaExemption.Log
import ClaExemption.Text.Lowercase

/-!
# The registry of organizations

Records of organizations, found by name whatever the case of its letters. A new
record replaces the one of the same name. Broken expressions are accepted with a
warning.
-/

namespace ClaExemption

/-- The records of organizations, each under its name in lower case. -/
structure Registry where
  records : List (String × Organization)
deriving DecidableEq

namespace Registry

/-- The registry without records. -/
def empty : Registry := ⟨[]⟩

/-- The number of records. -/
def size (r : Registry) : Nat := r.records.length

/-- The record of an organization. -/
def get? (r : Registry) (name : String) : Option Organization :=
  let key := Text.lowercase name
  (r.records.find? (·.1 == key)).map (·.2)

/-- The warnings about a record. -/
def warnings (org : Organization) : Log :=
  match org.rules with
  | none => []
  | some rules => rules.lint.map fun problem =>
    { level := .warn
      message := "skip_cla contains a pattern that will never match"
      details := [("organization", .text org.name), ("error", .text problem.message)] }

/-- The registry without the record of a name in lower case. -/
def without (r : Registry) (key : String) : Registry :=
  ⟨r.records.filter (·.1 != key)⟩

/-- Puts a record in. -/
def upsert (r : Registry) (org : Organization) : Registry :=
  let key := Text.lowercase org.name
  ⟨(key, org) :: (r.without key).records⟩

/-- Takes the record of a name out. -/
def remove (r : Registry) (name : String) : Option Organization × Registry :=
  (r.get? name, r.without (Text.lowercase name))

/-- The registry of a list of records, and the warnings about them. -/
def ofList (orgs : List Organization) : Registry × Log :=
  (orgs.foldl upsert empty, orgs.flatMap warnings)

/-- The names of the organizations, in ascending order. -/
def names (r : Registry) : List String :=
  (r.records.map fun e => e.2.name).mergeSort fun a b => a ≤ b

theorem get?_upsert (r : Registry) (org : Organization) (name : String) :
    (r.upsert org).get? name
      = if Text.lowercase name = Text.lowercase org.name then some org else r.get? name := by
  by_cases h : Text.lowercase name = Text.lowercase org.name
  · simp [get?, upsert, h]
  · simp only [get?, upsert, without, h, List.find?_cons, List.find?_filter, if_false]
    simp only [beq_iff_eq]
    congr 2
    grind

theorem get?_remove (r : Registry) (gone name : String) :
    (r.remove gone).2.get? name
      = if Text.lowercase name = Text.lowercase gone then none else r.get? name := by
  by_cases h : Text.lowercase name = Text.lowercase gone
  · simp [get?, remove, without, h]
  · simp only [get?, remove, without, h, List.find?_filter, if_false]
    congr 2
    grind

end Registry

end ClaExemption
