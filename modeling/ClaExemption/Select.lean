import ClaExemption.Decision
import ClaExemption.Session

/-!
# Selecting the entry for a repository

The entry under the name of the repository comes first, then the first one, in
order of keys, whose expression is found in the name, then the one under `*`. An
entry with an empty value counts as absent, but a regular expression that
matches ends the search for others even so.
-/

namespace ClaExemption

/-- The key of the entry for every repository. -/
def wildcardKey : String := "*"

/-- The name of a repository without the organization in front; the whole text if it has none or
if nothing follows it. -/
def repositoryName (full : String) : String :=
  match Text.cutFirst '/' full.toList with
  | some (_, name) => if name.isEmpty then full else String.ofList name
  | none => full

/-- The value under a key, unless it is empty. -/
def RuleMap.getNonEmpty? (m : RuleMap) (key : String) : Option String :=
  (m.get? key).filter (· ≠ "")

/-- The first entry whose expression is found in the name of a repository. Expressions that do not
compile are logged and passed over. -/
def findRegexEntry (repo : String) : List RuleMap.RegexEntry → SessionM (Option RuleMap.RegexEntry)
  | [] => return none
  | entry :: entries => do
    match ← SessionM.compile entry.source with
    | .error problem =>
      SessionM.logEntry
        { level := .warn
          message := "invalid regex in skip_cla key"
          details := [("repo", .text repo), ("key", .text entry.key),
            ("error", .text problem.message)] }
      findRegexEntry repo entries
    | .ok r => if r.isMatch repo then return some entry else findRegexEntry repo entries

/-- The entry under `*`. -/
def selectWildcard (m : RuleMap) (repo : String) : SessionM (Option Selected) := do
  match m.getNonEmpty? wildcardKey with
  | some value =>
    SessionM.logEntry
      { level := .debug
        message := "using wildcard skip_cla config"
        details := [("repo", .text repo), ("value", .text value)] }
    return some ⟨wildcardKey, value, .wildcard⟩
  | none => return none

/-- The entry of a rule map that applies to the repository of a name. -/
def selectEntry (m : RuleMap) (repo : String) : SessionM (Option Selected) := do
  match m.getNonEmpty? repo with
  | some value =>
    SessionM.logEntry
      { level := .debug
        message := "skip_cla config found for repo (exact hit)"
        details := [("repo", .text repo), ("value", .text value)] }
    return some ⟨repo, value, .exact⟩
  | none =>
    match ← findRegexEntry repo m.regexEntries with
    | some entry =>
      if entry.value = "" then selectWildcard m repo
      else
        SessionM.logEntry
          { level := .debug
            message := "found skip_cla config for repo via regex key"
            details := [("repo", .text repo), ("key", .text entry.key),
              ("value", .text entry.value)] }
        return some ⟨entry.key, entry.value, .regex⟩
    | none => selectWildcard m repo

end ClaExemption
