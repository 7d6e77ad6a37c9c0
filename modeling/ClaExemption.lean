import ClaExemption.Actor
import ClaExemption.Address.Basic
import ClaExemption.Address.Read
import ClaExemption.Arrival
import ClaExemption.Audit
import ClaExemption.Config.Basic
import ClaExemption.Config.EnvFile
import ClaExemption.Config.Environment
import ClaExemption.Config.Load
import ClaExemption.Decision
import ClaExemption.Files.Basic
import ClaExemption.Files.Tree
import ClaExemption.Http.Answer
import ClaExemption.Http.MediaType
import ClaExemption.Http.Percent
import ClaExemption.Http.Route
import ClaExemption.Json.Decode
import ClaExemption.Json.Node
import ClaExemption.Json.Numeral
import ClaExemption.Json.Read
import ClaExemption.Json.Value
import ClaExemption.Lines
import ClaExemption.Lint
import ClaExemption.Log
import ClaExemption.Main
import ClaExemption.Number.Digit
import ClaExemption.Number.Read
import ClaExemption.Number.Shortest
import ClaExemption.Pattern.Basic
import ClaExemption.Pattern.Cache
import ClaExemption.Program.Arguments
import ClaExemption.Program.Start
import ClaExemption.Proofs.Resolve.Partition
import ClaExemption.Proofs.Rule.Exempts
import ClaExemption.Proofs.Select.Precedence
import ClaExemption.Proofs.Service.History
import ClaExemption.Proofs.Session.SharedCache
import ClaExemption.Proofs.Session.Yields
import ClaExemption.Proofs.Text.ByteOrder
import ClaExemption.Proofs.Text.Cutting
import ClaExemption.Regex.Basic
import ClaExemption.Regex.Expr
import ClaExemption.Regex.Meaning
import ClaExemption.Regex.Read
import ClaExemption.Regex.Scan
import ClaExemption.Regex.Search
import ClaExemption.Regex.Size
import ClaExemption.Regex.Tree
import ClaExemption.Registry
import ClaExemption.Request
import ClaExemption.Resolve
import ClaExemption.Rule.Basic
import ClaExemption.Rule.Match
import ClaExemption.RuleMap
import ClaExemption.Select
import ClaExemption.Service
import ClaExemption.Session
import ClaExemption.Setting.Basic
import ClaExemption.Setting.Convert
import ClaExemption.Setting.Path
import ClaExemption.Text.Blank
import ClaExemption.Text.Lowercase
import ClaExemption.Text.Quoted
import ClaExemption.Text.Reader
import ClaExemption.Text.Split
import ClaExemption.Text.Utf8
import ClaExemption.Timings
import ClaExemption.Toml.Document
import ClaExemption.Toml.Entries
import ClaExemption.Toml.Key
import ClaExemption.Toml.Moment
import ClaExemption.Toml.Space
import ClaExemption.Toml.Text
import ClaExemption.Toml.Word
import ClaExemption.Unicode.Casing
import ClaExemption.Unicode.Category
import ClaExemption.Unicode.CodeSet
import ClaExemption.Unicode.Derived
import ClaExemption.Unicode.Primary
import ClaExemption.Unicode.Query
import ClaExemption.Unicode.Script
import ClaExemption.Wire.Decode
import ClaExemption.Wire.Encode
import ClaExemption.Proofs.Resolve.Padding
import ClaExemption.Proofs.Session.SharedSink
import ClaExemption.Proofs.Json.OneLine
import ClaExemption.Proofs.Service.ClockRange
import ClaExemption.Proofs.Service.Owner
import ClaExemption.Proofs.RuleMap.Building
import ClaExemption.Proofs.Service.Twin
import ClaExemption.Proofs.Text.Decoding
import ClaExemption.Proofs.Text.Framing
import ClaExemption.Proofs.Lines.Isolation
import ClaExemption.Proofs.Json.Sequence
import ClaExemption.Proofs.Keyed.Basic
import ClaExemption.Proofs.Registry.LastWriter
import ClaExemption.Proofs.Select.SpecialKeys
import ClaExemption.Proofs.Timings.LastStart
import ClaExemption.Proofs.Service.Sent
import ClaExemption.Proofs.Http.LineAgreement
import ClaExemption.Proofs.Http.RequestId
import ClaExemption.Proofs.Http.Outcome
import ClaExemption.Proofs.Rule.Legacy
import ClaExemption.Proofs.Service.Footprint
import ClaExemption.Proofs.Session.Tries
import ClaExemption.Proofs.Lint.Complete
import ClaExemption.Proofs.Json.Scalars
import ClaExemption.Proofs.Json.Reading
import ClaExemption.Proofs.Json.Records
import ClaExemption.Proofs.Wire.RoundTrip
import ClaExemption.Proofs.Lint.Alarms
import ClaExemption.Proofs.Lint.Overlooked
import ClaExemption.Proofs.Resolve.Footprint
import ClaExemption.Proofs.Rule.Alternatives
import ClaExemption.Proofs.Rule.Legible
import ClaExemption.Proofs.Rule.Reach
import ClaExemption.Proofs.Setting.Places
import ClaExemption.Proofs.Setting.Parts
import ClaExemption.Proofs.Config.Loading
import ClaExemption.Proofs.Config.Fields
import ClaExemption.Proofs.Config.Layers
import ClaExemption.Proofs.Config.Integers
import ClaExemption.Proofs.Config.Texts
import ClaExemption.Proofs.Json.Grammar
import ClaExemption.Proofs.Json.Accepted
import ClaExemption.Proofs.Json.Followed
import ClaExemption.Proofs.Json.Variation
import ClaExemption.Proofs.Wire.Lenience
import ClaExemption.Proofs.Number.Decimal
import ClaExemption.Proofs.Rule.Splitting
import ClaExemption.Proofs.Actor.Description
import ClaExemption.Proofs.Address.Spelling
import ClaExemption.Proofs.Address.Reading
import ClaExemption.Proofs.Address.Binding
import ClaExemption.Proofs.Program.Override
import ClaExemption.Proofs.Regex.Search
