import ClaExemption.Number.Read
import ClaExemption.Setting.Basic
import ClaExemption.Text.Lowercase
import ClaExemption.Text.Split

/-!
# Settings in the environment

A variable whose name starts with `SKIP_CLA__`, in whatever case, is a setting:
pairs of underscores in the rest of its name separate the levels. Its value is
taken for a truth value or a number if it can be.
-/

namespace ClaExemption

/-- The variables of an environment, by their names. -/
abbrev Environment := List (String × String)

namespace Environment

/-- What the names of variables that are settings start with, in lower case. -/
def settingMark : List Char := "skip_cla__".toList

/-- The rest of a name with points in place of pairs of underscores. -/
def dotted : List Char → List Char
  | '_' :: '_' :: rest => '.' :: dotted rest
  | c :: rest => c :: dotted rest
  | [] => []

/-- The key of the setting that a variable of a name is. -/
def key? (name : String) : Option String :=
  (Text.afterStart? settingMark (Text.lowercase name).toList).map fun rest =>
    String.ofList (dotted rest)

/-- The truth value that a text says in any case. -/
def bool? (value : String) : Option Bool :=
  match Text.lowercase value with
  | "true" => some true
  | "false" => some false
  | _ => none

/-- The setting that the value of a variable is. -/
def setting (value : String) : Setting :=
  match bool? value with
  | some b => .flag b
  | none =>
    match Number.int64? value.toList with
    | some n => .integer n
    | none =>
      match Number.float? value.toList with
      | some x => .fraction x
      | none => .text value

/-- The settings in an environment. -/
def settings (env : Environment) : List (String × Setting) :=
  env.filterMap fun (name, value) => (key? name).map fun key => (key, setting value)

end Environment

end ClaExemption
