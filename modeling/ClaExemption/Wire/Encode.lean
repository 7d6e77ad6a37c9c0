import ClaExemption.Decision
import ClaExemption.Json.Value
import ClaExemption.Request

/-!
# Writing the domain's values as JSON

Members that are missing are left out, except for the organization of a request,
which is written as `null`.
-/

namespace ClaExemption.Wire

open Json

/-- Encodes an author. -/
def encodeAuthor (a : Author) : Value :=
  .ofOptions
    [("id", a.id.map fun id => .int id.toInt), ("login", a.login.map .text),
     ("email", a.email.map .text), ("name", a.name.map .text)]

/-- Encodes an actor. -/
def encodeActor (a : Actor) : Value :=
  .ofOptions
    [("sha", some (.text a.sha)), ("commit_author", a.author.map encodeAuthor),
     ("affiliated", some (.bool a.affiliated)), ("authorized", some (.bool a.authorized))]

/-- Encodes a value, or its absence as `null`. -/
def encodeOption {α : Type} (encode : α → Value) (value : Option α) : Value :=
  (value.map encode).getD .null

/-- Encodes a list. -/
def encodeList {α : Type} (encode : α → Value) (items : List α) : Value :=
  .array (items.map encode)

/-- Encodes a rule map. -/
def encodeRules (m : RuleMap) : Value :=
  .object (m.toList.map fun (key, value) => (key, .text value))

/-- Encodes an organization. -/
def encodeOrganization (o : Organization) : Value :=
  .ofOptions
    [("organization_name", some (.text o.name)), ("skip_cla", o.rules.map encodeRules)]

/-- Encodes a request. -/
def encodeRequest (r : Request) : Value :=
  .object
    [("organization", encodeOption .text r.organization), ("repository", .text r.repository),
     ("project_id", .text r.projectId),
     ("actors", encodeList (encodeOption encodeActor) r.actors)]

/-- Encodes an entry that applied. -/
def encodeSelected (s : Selected) : Value :=
  .object [("key", .text s.key), ("value", .text s.value), ("source", .text s.source.name)]

/-- Encodes what is reported of an exemption. -/
def encodeBypass (b : Bypass) : Value :=
  .object [("repo", .text b.repo), ("config", .text b.config), ("actor", .text b.actor)]

/-- Encodes an audit event. -/
def encodeEvent (e : AuditEvent) : Value :=
  .object
    [("event_type", .text e.kind.name), ("event_data", encodeBypass e.data),
     ("project_id", .text e.projectId), ("timestamp", .int e.timestamp.toNat)]

/-- Encodes a decision. -/
def encodeDecision (d : Decision) : Value :=
  .ofOptions
    [("still_missing", some (encodeList encodeActor d.stillMissing)),
     ("allowlisted", some (encodeList encodeActor d.allowlisted)),
     ("resolved", d.resolved.map encodeSelected),
     ("events", some (encodeList encodeEvent d.events))]

end ClaExemption.Wire
