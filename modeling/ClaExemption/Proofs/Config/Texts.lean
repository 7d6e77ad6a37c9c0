import ClaExemption.Proofs.Config.Layers

/-!
# Texts in the configuration

A text in the file is kept as it is. The value of a variable is not: it is taken
for a truth value or a number if it can be, and then written anew
(`Environment.respelled`). `text_kept_iff` says which values survive that.
-/

namespace ClaExemption

namespace Environment

/-- The value of a variable as it is written after it has been taken for a truth value or a number,
which it is where it can be. -/
def respelled (value : String) : String :=
  match bool? value with
  | some b => if b then "true" else "false"
  | none =>
    match Number.int64? value.toList with
    | some n => toString n
    | none =>
      match Number.float? value.toList with
      | some x => Number.plainText x
      | none => value

theorem toText?_setting (value : String) : (setting value).toText? = some (respelled value) := by
  unfold setting respelled
  cases bool? value with
  | some b => rfl
  | none =>
    cases Number.int64? value.toList with
    | some n => rfl
    | none => cases Number.float? value.toList <;> rfl

/-- A value that is written as it would be written anew. -/
structure IsSettled (value : String) : Prop where
  flag : ∀ b, bool? value = some b → value = if b then "true" else "false"
  integer : ∀ n, bool? value = none → Number.int64? value.toList = some n → value = toString n
  fraction : ∀ x, bool? value = none → Number.int64? value.toList = none →
    Number.float? value.toList = some x → value = Number.plainText x

/-- Writing a value anew leaves it if it is taken for nothing but a text or is written so already. -/
theorem respelled_eq_self_iff {value : String} : respelled value = value ↔ IsSettled value := by
  constructor
  · intro kept
    refine ⟨fun b flag => ?_, fun n noFlag integer => ?_, fun x noFlag noInteger fraction => ?_⟩
    · rw [respelled, flag] at kept
      exact kept.symm
    · rw [respelled, noFlag] at kept
      simp only [integer] at kept
      exact kept.symm
    · rw [respelled, noFlag] at kept
      simp only [noInteger, fraction] at kept
      exact kept.symm
  · intro settled
    unfold respelled
    cases flag : bool? value with
    | some b => exact (settled.flag b flag).symm
    | none =>
      cases integer : Number.int64? value.toList with
      | some n => exact (settled.integer n flag integer).symm
      | none =>
        cases fraction : Number.float? value.toList with
        | some x => exact (settled.fraction x flag integer fraction).symm
        | none => rfl

end Environment

namespace Config

variable {fs : FileSystem Id} {home path : Option String} {env : Environment}
  {source : List (String × Setting)} {c : Config}

/-- The fields that are free texts. -/
inductive TextField where
  | host
  | name
  | version
  | level
deriving DecidableEq, Repr

namespace TextField

/-- The field as one of all. -/
def field : TextField → Field
  | host => .host
  | name => .name
  | version => .version
  | level => .level

/-- The text in a field. -/
def text : TextField → Config → String
  | host, c => c.server.host
  | name, c => c.server.name
  | version, c => c.server.version
  | level, c => c.logging.level

/-- A field that is a text holds what counts for it as a text. -/
theorem toText?_of_holds {f : TextField} {s : Setting} (h : Holds home c f.field (some s)) :
    s.toText? = some (f.text c) := by
  obtain ⟨x, reads, holds⟩ := h
  cases f <;> exact Eq.trans reads (congrArg some (Eq.symm holds))

end TextField

/-- A text of a loaded configuration is what the file says, as it is written there, unless that is
lost or a variable sets it. Then it is the value of the variable written anew, and so the value
itself only if that is taken for no truth value and no number, or is written as one already. -/
theorem text_kept_iff (h : loaded fs home env path = .ok c) (f : TextField)
    (alone : f.field.place.Alone env.settings) :
    (∀ value, f.field.assigned? env = some value →
      f.text c = Environment.respelled value ∧
        (f.text c = value ↔ Environment.IsSettled value)) ∧
      ∀ source s, fileSettings fs home path = .ok source → f.field.assigned? env = none →
        f.field.isLost (layers [source]) env = false →
          (layers [source]).at? f.field.place = some (.text s) → f.text c = s := by
  obtain ⟨source, -, ofFile, -⟩ := loaded_eq_ok_iff.1 h
  constructor
  · intro value last
    have holds := holds_given alone ofFile h
    rw [Field.given_of_assigned last] at holds
    have same : f.text c = Environment.respelled value :=
      Option.some.inj ((TextField.toText?_of_holds holds).symm.trans
        (Environment.toText?_setting value))
    exact ⟨same, same ▸ Environment.respelled_eq_self_iff⟩
  · intro source s ofFile unassigned kept written
    have holds := holds_given alone ofFile h
    rw [Field.given_of_written unassigned written kept] at holds
    exact (Option.some.inj (TextField.toText?_of_holds holds)).symm

/-- A version that reads like no number is kept. -/
theorem text_kept_iff_word :
    ∃ c, loaded (settingsFile "") none [("SKIP_CLA__SERVER__VERSION", "2.0-beta")] none = .ok c ∧
      c.server.version = "2.0-beta" ∧ Environment.IsSettled "2.0-beta" := by
  have both : loaded (settingsFile "") none [("SKIP_CLA__SERVER__VERSION", "2.0-beta")] none =
      .ok { server := { version := "2.0-beta" } } := eq_ok_of_toOption (by decide +kernel)
  have name : Field.version.variableName = "SKIP_CLA__SERVER__VERSION" := by decide +kernel
  have sets := name ▸ Field.isSetBy_variableName .version
  have known := (adds_first sets "2.0-beta").setsFields nofun
  have kept := (text_kept_iff both .version (Field.version.alone known)).1 "2.0-beta"
    (by decide +kernel)
  exact ⟨_, both, rfl, kept.2.1 rfl⟩

/-- A version from a variable that reads like a number loses its last digit; in a file it does
not. -/
theorem version_from_variable_respelled :
    loaded (settingsFile "") none [("SKIP_CLA__SERVER__VERSION", "2.0")] none =
        .ok { server := { version := "2" } } ∧
      loaded (settingsFile "server.version = \"2.0\"\n") none [] none =
        .ok { server := { version := "2.0" } } :=
  ⟨eq_ok_of_toOption (by decide +kernel), eq_ok_of_toOption (by decide +kernel)⟩

end Config

end ClaExemption
