import ClaExemption.Decision
import ClaExemption.Json.Decode
import ClaExemption.Request
import ClaExemption.Rule.Basic

/-!
# Reading the domain's values from JSON

One record or choice of names for each kind of value. A field that is not
required keeps the value it has in the record's initial one.
-/

namespace ClaExemption.Wire

open Json

/-! ## Names -/

/-- The names of the grammars. -/
def grammars : List (String × Grammar) :=
  [Grammar.extended, Grammar.simple].map fun g => (g.name, g)

/-- The names of the kinds of keys. -/
def ruleSources : List (String × RuleSource) :=
  [RuleSource.exact, RuleSource.regex, RuleSource.wildcard].map fun s => (s.name, s)

/-- The names of the kinds of events. -/
def eventKinds : List (String × EventKind) :=
  [EventKind.bypass].map fun k => (k.name, k)

/-- Decodes a grammar. -/
def decodeGrammar : Decoder Grammar := decodeChoice grammars

/-- Decodes a kind of key. -/
def decodeRuleSource : Decoder RuleSource := decodeChoice ruleSources

/-- Decodes a kind of event. -/
def decodeEventKind : Decoder EventKind := decodeChoice eventKinds

/-! ## Actors -/

/-- The record of an author. -/
def authorRecord : Record Author where
  name := "CommitAuthor"
  fields :=
    [.of "id" false (decodeOption decodeInt64) fun a id => { a with id },
     .of "login" false (decodeOption decodeString) fun a login => { a with login },
     .of "email" false (decodeOption decodeString) fun a email => { a with email },
     .of "name" false (decodeOption decodeString) fun a name => { a with name }]
  initial := {}

/-- Decodes an author. -/
def decodeAuthor : Decoder Author := authorRecord.decode

/-- The record of an actor. -/
def actorRecord : Record Actor where
  name := "UserCommitSummary"
  fields :=
    [.of "sha" false decodeString fun a sha => { a with sha },
     .of "commit_author" false (decodeOption decodeAuthor) fun a author => { a with author },
     .of "affiliated" false decodeBool fun a affiliated => { a with affiliated },
     .of "authorized" false decodeBool fun a authorized => { a with authorized }]
  initial := {}

/-- Decodes an actor. -/
def decodeActor : Decoder Actor := actorRecord.decode

/-- Decodes a list of actors, any of which may be missing. -/
def decodeActors : Decoder (List (Option Actor)) := decodeList (decodeOption decodeActor)

/-! ## Organizations -/

/-- Decodes a rule map. -/
def decodeRules : Decoder RuleMap := fun origin node =>
  (decodeMap decodeString origin node).map RuleMap.ofList

/-- The record of an organization. -/
def organizationRecord : Record Organization where
  name := "GithubOrganization"
  fields :=
    [.of "organization_name" true decodeString fun o name => { o with name },
     .of "skip_cla" false (decodeOption decodeRules) fun o rules => { o with rules }]
  initial := { name := "" }

/-- Decodes an organization. -/
def decodeOrganization : Decoder Organization := organizationRecord.decode

/-- Decodes a list of organizations. -/
def decodeOrganizations : Decoder (List Organization) := decodeList decodeOrganization

/-! ## Requests -/

/-- The record of a request. -/
def requestRecord : Record Request where
  name := "AllowlistRequest"
  fields :=
    [.of "organization" false (decodeOption decodeString) fun r organization =>
       { r with organization },
     .of "repository" true decodeString fun r repository => { r with repository },
     .of "project_id" false decodeString fun r projectId => { r with projectId },
     .of "actors" false decodeActors fun r actors => { r with actors }]
  initial := { repository := "" }

/-- Decodes a request. -/
def decodeRequest : Decoder Request := requestRecord.decode

/-! ## Decisions -/

/-- The record of an entry that applied. -/
def selectedRecord : Record Selected where
  name := "ResolvedConfig"
  fields :=
    [.of "key" true decodeString fun s key => { s with key },
     .of "value" true decodeString fun s value => { s with value },
     .of "source" true decodeRuleSource fun s source => { s with source }]
  initial := { key := "", value := "", source := .exact }

/-- Decodes an entry that applied. -/
def decodeSelected : Decoder Selected := selectedRecord.decode

/-- The record of what is reported of an exemption. -/
def bypassRecord : Record Bypass where
  name := "BypassClaEventData"
  fields :=
    [.of "repo" true decodeString fun b repo => { b with repo },
     .of "config" true decodeString fun b config => { b with config },
     .of "actor" true decodeString fun b actor => { b with actor }]
  initial := { repo := "", config := "", actor := "" }

/-- Decodes what is reported of an exemption. -/
def decodeBypass : Decoder Bypass := bypassRecord.decode

/-- The record of an audit event. -/
def eventRecord : Record AuditEvent where
  name := "LogEventArgs"
  fields :=
    [.of "event_type" true decodeEventKind fun e kind => { e with kind },
     .of "event_data" true decodeBypass fun e data => { e with data },
     .of "project_id" true decodeString fun e projectId => { e with projectId },
     .of "timestamp" true decodeUInt64 fun e timestamp => { e with timestamp }]
  initial := .ofBypass bypassRecord.initial "" 0

/-- Decodes an audit event. -/
def decodeEvent : Decoder AuditEvent := eventRecord.decode

/-- The record of a decision. -/
def decisionRecord : Record Decision where
  name := "AllowlistResponse"
  fields :=
    [.of "still_missing" true (decodeList decodeActor) fun d stillMissing =>
       { d with stillMissing },
     .of "allowlisted" true (decodeList decodeActor) fun d allowlisted => { d with allowlisted },
     .of "resolved" false (decodeOption decodeSelected) fun d resolved => { d with resolved },
     .of "events" false (decodeList decodeEvent) fun d events => { d with events }]
  initial := {}

/-- Decodes a decision. -/
def decodeDecision : Decoder Decision := decisionRecord.decode

end ClaExemption.Wire
