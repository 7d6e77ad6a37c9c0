import ClaExemption.Config.Load
import ClaExemption.Proofs.Setting.Parts

/-!
# The fields of the configuration

`Config.Field` lists what can be set, each field with its place in the settings
(`Field.place`), the reading of a setting for it (`Field.convert`) and the name
of the variable that sets it (`Field.variableName`). A configuration holds in
each field what is read from its own place, or the default one
(`reads_of_ofSetting?`).
-/

namespace ClaExemption.Config

open Setting (Reads readFrom readFrom_cons readFrom_cons_of readFrom_of_reads readParts
  readParts_table)

/-- What can be set. -/
inductive Field where
  | transport
  | host
  | port
  | name
  | version
  | grammar
  | cachePatterns
  | organizationsPath
  | timingSeconds
  | level
  | format
deriving DecidableEq, Repr

namespace Field

/-- What a field holds. -/
abbrev Kind : Field → Type
  | transport => Transport
  | host | name | version | level => String
  | port => UInt16
  | grammar => Grammar
  | cachePatterns => Bool
  | organizationsPath => Option String
  | timingSeconds => UInt64
  | format => LogFormat

/-- What a configuration holds in a field. -/
def get : (f : Field) → Config → f.Kind
  | transport, c => c.server.transport
  | host, c => c.server.host
  | port, c => c.server.port
  | name, c => c.server.name
  | version, c => c.server.version
  | grammar, c => c.rules.grammar
  | cachePatterns, c => c.rules.cachePatterns
  | organizationsPath, c => c.organizationsPath
  | timingSeconds, c => c.timingSeconds
  | level, c => c.logging.level
  | format, c => c.logging.format

/-- What a setting is read as for a field. -/
def convert : (f : Field) → Setting → Option f.Kind
  | transport => Setting.toChoice? (named Transport.name [.stdio, .http])
  | host | name | version | level => Setting.toText?
  | port => Setting.toUInt16?
  | grammar => Setting.toChoice? (named Grammar.name [.extended, .simple])
  | cachePatterns => Setting.toBool?
  | organizationsPath => Setting.toOption? Setting.toText?
  | timingSeconds => Setting.toUInt64?
  | format => Setting.toChoice? (named LogFormat.name [.pretty, .json])

/-- Where the setting of a field stands. -/
def place : Field → Place
  | transport => ⟨"server", "transport", 0⟩
  | host => ⟨"server", "host", 1⟩
  | port => ⟨"server", "port", 2⟩
  | name => ⟨"server", "name", 3⟩
  | version => ⟨"server", "version", 4⟩
  | grammar => ⟨"allowlist", "grammar", 0⟩
  | cachePatterns => ⟨"allowlist", "cache_patterns", 1⟩
  | organizationsPath => ⟨"store", "organizations_path", 0⟩
  | timingSeconds => ⟨"metrics", "ttl_secs", 0⟩
  | level => ⟨"logging", "level", 0⟩
  | format => ⟨"logging", "format", 1⟩

/-- The key of the setting of a field. -/
def key (f : Field) : String := f.place.group ++ "." ++ f.place.name

/-- The name of the variable that sets a field. -/
def variableName (f : Field) : String :=
  String.ofList (("skip_cla__" ++ f.place.group ++ "__" ++ f.place.name).toList.map Char.toUpper)

theorem key?_variableName (f : Field) : Environment.key? f.variableName = some f.key := by
  cases f <;> decide +kernel

theorem pathOf_key (f : Field) : pathOf f.key = f.place.path := by
  cases f <;> decide +kernel

/-- The place of a field is apart from that of every other one. -/
theorem apart {f g : Field} (ne : g ≠ f) : f.place.Apart g.place.path := by
  have differs : g.place.group ≠ f.place.group ∨ g.place.name ≠ f.place.name := by
    cases f <;> cases g <;> first | exact absurd rfl ne | decide
  exact differs

theorem path_ne {f g : Field} (ne : g ≠ f) : g.place.path ≠ f.place.path := by
  intro same
  rw [Place.path, Place.path] at same
  simp only [List.cons.injEq, PathStep.key.injEq, and_true] at same
  exact (show g.place.group ≠ f.place.group ∨ g.place.name ≠ f.place.name from apart ne).elim
    (absurd same.1) (absurd same.2)

end Field

/-! ## Sections -/

section Sections

variable {given : Nat → String → Option Setting}

theorem reads_of_server {c : ServerConfig} (h : readFrom given 0 serverParts {} = some c) :
    Reads Field.transport.convert .stdio (given 0 "transport") c.transport ∧
      Reads Field.host.convert "127.0.0.1" (given 1 "host") c.host ∧
      Reads Field.port.convert Address.Endpoint.default.port (given 2 "port") c.port ∧
      Reads Field.name.convert programName (given 3 "name") c.name ∧
      Reads Field.version.convert programVersion (given 4 "version") c.version := by
  obtain ⟨transport, h₀, h⟩ := readFrom_cons_of ServerConfig.transport rfl h
  obtain ⟨host, h₁, h⟩ := readFrom_cons_of ServerConfig.host rfl h
  obtain ⟨port, h₂, h⟩ := readFrom_cons_of ServerConfig.port rfl h
  obtain ⟨name, h₃, h⟩ := readFrom_cons_of ServerConfig.name rfl h
  obtain ⟨version, h₄, h⟩ := readFrom_cons_of ServerConfig.version rfl h
  cases h
  exact ⟨h₀, h₁, h₂, h₃, h₄⟩

theorem reads_of_rules {c : RulesConfig} (h : readFrom given 0 rulesParts {} = some c) :
    Reads Field.grammar.convert .extended (given 0 "grammar") c.grammar ∧
      Reads Field.cachePatterns.convert true (given 1 "cache_patterns") c.cachePatterns := by
  obtain ⟨grammar, h₀, h⟩ := readFrom_cons_of RulesConfig.grammar rfl h
  obtain ⟨cachePatterns, h₁, h⟩ := readFrom_cons_of RulesConfig.cachePatterns rfl h
  cases h
  exact ⟨h₀, h₁⟩

theorem reads_of_store {path : Option String} (h : readFrom given 0 storeParts none = some path) :
    Reads Field.organizationsPath.convert none (given 0 "organizations_path") path := by
  obtain ⟨path, h₀, h⟩ := readFrom_cons_of id rfl h
  cases h
  exact h₀

theorem reads_of_metrics {start secs : UInt64}
    (h : readFrom given 0 metricsParts start = some secs) :
    Reads Field.timingSeconds.convert start (given 0 "ttl_secs") secs := by
  obtain ⟨secs, h₀, h⟩ := readFrom_cons_of id rfl h
  cases h
  exact h₀

theorem reads_of_logging {c : LoggingConfig} (h : readFrom given 0 loggingParts {} = some c) :
    Reads Field.level.convert "info" (given 0 "level") c.level ∧
      Reads Field.format.convert .pretty (given 1 "format") c.format := by
  obtain ⟨level, h₀, h⟩ := readFrom_cons_of LoggingConfig.level rfl h
  obtain ⟨format, h₁, h⟩ := readFrom_cons_of LoggingConfig.format rfl h
  cases h
  exact ⟨h₀, h₁⟩

end Sections

/-! ## The configuration -/

/-- A configuration is read section by section. -/
theorem ofSetting?_eq_some_iff {entries : List (String × Setting)} {c : Config} :
    ofSetting? (.table entries) = some c ↔
      Reads (readParts serverParts {}) {} (entries.lookup "server") c.server ∧
        Reads (readParts rulesParts {}) {} (entries.lookup "allowlist") c.rules ∧
        Reads (readParts storeParts none) none (entries.lookup "store") c.organizationsPath ∧
        Reads (readParts metricsParts (Config.timingSeconds {})) (Config.timingSeconds {})
          (entries.lookup "metrics") c.timingSeconds ∧
        Reads (readParts loggingParts {}) {} (entries.lookup "logging") c.logging := by
  rw [ofSetting?, readParts_table _ _ 0]
  constructor
  · intro h
    obtain ⟨server, h₀, h⟩ := readFrom_cons_of Config.server rfl h
    obtain ⟨rules, h₁, h⟩ := readFrom_cons_of Config.rules rfl h
    obtain ⟨path, h₂, h⟩ := readFrom_cons_of Config.organizationsPath rfl h
    obtain ⟨secs, h₃, h⟩ := readFrom_cons_of Config.timingSeconds rfl h
    obtain ⟨logging, h₄, h⟩ := readFrom_cons_of Config.logging rfl h
    cases h
    exact ⟨h₀, h₁, h₂, h₃, h₄⟩
  · rintro ⟨h₀, h₁, h₂, h₃, h₄⟩
    exact readFrom_cons Config.server rfl h₀ <| readFrom_cons Config.rules rfl h₁ <|
      readFrom_cons Config.organizationsPath rfl h₂ <|
      readFrom_cons Config.timingSeconds rfl h₃ <| readFrom_cons Config.logging rfl h₄ rfl

/-- Each field holds what is read from its place, and the default value if nothing stands there. -/
theorem reads_of_ofSetting? {entries : List (String × Setting)} {c : Config}
    (h : ofSetting? (.table entries) = some c) (f : Field) :
    Reads f.convert (f.get {}) ((Setting.table entries).at? f.place) (f.get c) := by
  obtain ⟨h₀, h₁, h₂, h₃, h₄⟩ := ofSetting?_eq_some_iff.1 h
  obtain ⟨transport, host, port, name, version⟩ := reads_of_server (readFrom_of_reads h₀)
  obtain ⟨grammar, cachePatterns⟩ := reads_of_rules (readFrom_of_reads h₁)
  obtain ⟨level, format⟩ := reads_of_logging (readFrom_of_reads h₄)
  cases f with
  | transport => exact transport
  | host => exact host
  | port => exact port
  | name => exact name
  | version => exact version
  | grammar => exact grammar
  | cachePatterns => exact cachePatterns
  | organizationsPath => exact reads_of_store (readFrom_of_reads h₂)
  | timingSeconds => exact reads_of_metrics (readFrom_of_reads h₃)
  | level => exact level
  | format => exact format

end ClaExemption.Config
