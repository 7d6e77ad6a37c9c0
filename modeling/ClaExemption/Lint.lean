import ClaExemption.Pattern.Cache
import ClaExemption.Rule.Basic
import ClaExemption.RuleMap

/-!
# Checking rule maps for broken expressions

`RuleMap.lint` lists the regular expressions of a map that do not compile, in
its keys and in the patterns of its values.
-/

namespace ClaExemption

/-- The problem of a text that is a marked expression and does not compile. -/
def problemOf? (s : String) : Option PatternProblem :=
  (regexSource? s).bind fun source =>
    match Regex.compile source with
    | .ok _ => none
    | .error fault => some ⟨source, fault⟩

/-- The parts of a value that may be patterns. -/
def valueParts (value : String) : List String :=
  (splitAlternatives value).flatMap fun alternative =>
    (Text.splitAt ';' alternative.toList).map String.ofList

/-- The broken expressions of a map, entry by entry, the key before its value. -/
def RuleMap.lint (m : RuleMap) : List PatternProblem :=
  m.entries.flatMap fun (key, value) => (key :: valueParts value).filterMap problemOf?

end ClaExemption
