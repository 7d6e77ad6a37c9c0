import ClaExemption.Http.Answer
import ClaExemption.Lines
import ClaExemption.Proofs.Json.Variation

/-!
# Domain values from texts that differ in form

The rules for the members of each record of the domain, and which of them may be
left out (`requestMembers` and the like). A text of a request, an actor, an
author, an organization or a decision may be written over by these rules, and it
decodes as the same value then (`decoding_lenient`).
-/

namespace ClaExemption.Wire

open Json

/-! ## The members of records -/

/-- What is written for an absent text that is empty by default. -/
def emptyText : Node := .text (.ok "")

/-- What is written for an absent sequence that is empty by default. -/
def emptyArray : Node := .array [] none

/-- The members of an author. -/
def authorMembers : List MemberRule :=
  [⟨"id", Eq, some .null⟩, ⟨"login", Eq, some .null⟩, ⟨"email", Eq, some .null⟩,
   ⟨"name", Eq, some .null⟩]

/-- The members of an actor. -/
def actorMembers : List MemberRule :=
  [⟨"sha", Eq, some emptyText⟩, ⟨"commit_author", RecordVaries authorMembers, some .null⟩,
   ⟨"affiliated", Eq, some (.bool false)⟩, ⟨"authorized", Eq, some (.bool false)⟩]

/-- The members of an organization. The rules of an organization are no record. -/
def organizationMembers : List MemberRule :=
  [⟨"organization_name", Eq, none⟩, ⟨"skip_cla", Eq, some .null⟩]

/-- The members of a request. -/
def requestMembers : List MemberRule :=
  [⟨"organization", Eq, some .null⟩, ⟨"repository", Eq, none⟩, ⟨"project_id", Eq, some emptyText⟩,
   ⟨"actors", ListVaries (RecordVaries actorMembers), some emptyArray⟩]

/-- The members of an entry that applied. -/
def selectedMembers : List MemberRule :=
  [⟨"key", Eq, none⟩, ⟨"value", Eq, none⟩, ⟨"source", Eq, none⟩]

/-- The members of what is reported of an exemption. -/
def bypassMembers : List MemberRule :=
  [⟨"repo", Eq, none⟩, ⟨"config", Eq, none⟩, ⟨"actor", Eq, none⟩]

/-- The members of an audit event. -/
def eventMembers : List MemberRule :=
  [⟨"event_type", Eq, none⟩, ⟨"event_data", RecordVaries bypassMembers, none⟩,
   ⟨"project_id", Eq, none⟩, ⟨"timestamp", Eq, none⟩]

/-- The members of a decision. -/
def decisionMembers : List MemberRule :=
  [⟨"still_missing", ListVaries (RecordVaries actorMembers), none⟩,
   ⟨"allowlisted", ListVaries (RecordVaries actorMembers), none⟩,
   ⟨"resolved", RecordVaries selectedMembers, some .null⟩,
   ⟨"events", ListVaries (RecordVaries eventMembers), some emptyArray⟩]

/-! ## Their records -/

theorem lenient_author : authorRecord.Lenient authorMembers where
  fits := .cons (fits_optional (Decoder.blind_eq _) rfl) <|
    .cons (fits_optional (Decoder.blind_eq _) rfl) <|
    .cons (fits_optional (Decoder.blind_eq _) rfl) <|
    .cons (fits_optional (Decoder.blind_eq _) rfl) .nil
  distinct := by decide
  commute := by simp [authorRecord, Field.commutes_of]

theorem lenient_actor : actorRecord.Lenient actorMembers where
  fits := .cons (fits_optional (Decoder.blind_eq _) rfl) <|
    .cons (fits_optional (lenient_author.blind.option RecordVaries.null_iff) rfl) <|
    .cons (fits_optional (Decoder.blind_eq _) rfl) <|
    .cons (fits_optional (Decoder.blind_eq _) rfl) .nil
  distinct := by decide
  commute := by simp [actorRecord, Field.commutes_of]

theorem lenient_organization : organizationRecord.Lenient organizationMembers where
  fits := .cons (fits_required (Decoder.blind_eq _)) <|
    .cons (fits_optional (Decoder.blind_eq _) rfl) .nil
  distinct := by decide
  commute := by simp [organizationRecord, Field.commutes_of]

theorem lenient_request : requestRecord.Lenient requestMembers where
  fits := .cons (fits_optional (Decoder.blind_eq _) rfl) <|
    .cons (fits_required (Decoder.blind_eq _)) <|
    .cons (fits_optional (Decoder.blind_eq _) rfl) <|
    .cons (fits_optional (lenient_actor.blind.option RecordVaries.null_iff).list rfl) .nil
  distinct := by decide
  commute := by simp [requestRecord, Field.commutes_of]

theorem lenient_selected : selectedRecord.Lenient selectedMembers where
  fits := .cons (fits_required (Decoder.blind_eq _)) <|
    .cons (fits_required (Decoder.blind_eq _)) <| .cons (fits_required (Decoder.blind_eq _)) .nil
  distinct := by decide
  commute := by simp [selectedRecord, Field.commutes_of]

theorem lenient_bypass : bypassRecord.Lenient bypassMembers where
  fits := .cons (fits_required (Decoder.blind_eq _)) <|
    .cons (fits_required (Decoder.blind_eq _)) <| .cons (fits_required (Decoder.blind_eq _)) .nil
  distinct := by decide
  commute := by simp [bypassRecord, Field.commutes_of]

theorem lenient_event : eventRecord.Lenient eventMembers where
  fits := .cons (fits_required (Decoder.blind_eq _)) <|
    .cons (fits_required lenient_bypass.blind) <| .cons (fits_required (Decoder.blind_eq _)) <|
    .cons (fits_required (Decoder.blind_eq _)) .nil
  distinct := by decide
  commute := by simp [eventRecord, Field.commutes_of]

theorem lenient_decision : decisionRecord.Lenient decisionMembers where
  fits := .cons (fits_required lenient_actor.blind.list) <|
    .cons (fits_required lenient_actor.blind.list) <|
    .cons (fits_optional (lenient_selected.blind.option RecordVaries.null_iff) rfl) <|
    .cons (fits_optional lenient_event.blind.list rfl) .nil
  distinct := by decide
  commute := by simp [decisionRecord, Field.commutes_of]

/-! ## Texts -/

/-- The form of a text does not count for a decoder: whatever text decodes, it spells a tree, and
each text that it can be written over into decodes as the same value. -/
def IgnoresForm {α : Type} (d : Decoder α) (rules : List MemberRule) : Prop :=
  ∀ s x, decodeText d s = .ok x → (∃ t : Node, t.IsSpelled s) ∧
    ∀ s', Rewritten (RecordVaries rules) s s' → decodeText d s' = .ok x

theorem ignoresForm_decode {α : Type} {r : Record α} {rules : List MemberRule}
    (lenient : r.Lenient rules) : IgnoresForm r.decode rules := fun _ x decoded =>
  ⟨Record.exists_isSpelled decoded, fun _ rewritten =>
    (lenient.blind.decodeText_iff rewritten x).1 decoded⟩

section Checks

variable {r : Request}

theorem answerText_of_decoded (s : Service) (arrival : Arrival) {chars chars' : List Char}
    (decoded : decodeText decodeRequest (chars.map some) = .ok r)
    (decoded' : decodeText decodeRequest (chars'.map some) = .ok r) :
    Lines.answerText s arrival chars' = Lines.answerText s arrival chars := by
  rw [Lines.answerText, Lines.answerText, decoded, decoded']

/-- Of the body of a call nothing but the request counts. -/
theorem answer_of_request {c : Http.Call} {body : Http.Body}
    (same : Http.Call.request { c with body } = c.request) (s : Service) (arrival : Arrival) :
    Http.answer s arrival { c with body } = Http.answer s arrival c := by
  have target : ∀ id, Http.answerTarget s arrival.moment id { c with body } =
      Http.answerTarget s arrival.moment id c := by
    intro id
    unfold Http.answerTarget Http.answerRoute Http.answerResolve
    rw [same]
  unfold Http.answer
  simp only [target]
  rfl

/-- A call whose body is a request asks for the same with another text for it. -/
theorem request_of_decoded {c : Http.Call} {bytes : List UInt8}
    (decoded : decodeText decodeRequest (glyphsOfBytes c.body.bytes) = .ok r)
    (decoded' : decodeText decodeRequest (glyphsOfBytes bytes) = .ok r)
    (fits : c.body.bytes.length ≤ Http.bodyLimit) (fits' : bytes.length ≤ Http.bodyLimit) :
    Http.Call.request { c with body.bytes := bytes } = c.request := by
  have same : Http.Call.saysJson { c with body.bytes := bytes } = c.saysJson := rfl
  unfold Http.Call.request
  rw [same, decoded, decoded', if_neg (Nat.not_lt.2 fits), if_neg (Nat.not_lt.2 fits')]

end Checks

/-- The form of a text does not count: the order of members, members of other names, white space,
and whether members that hold their default value are written. A request is answered the same in
every form, in a line and in a body that is not too long. -/
theorem decoding_lenient :
    IgnoresForm decodeRequest requestMembers ∧ IgnoresForm decodeActor actorMembers ∧
      IgnoresForm decodeAuthor authorMembers ∧
      IgnoresForm decodeOrganization organizationMembers ∧
      IgnoresForm decodeDecision decisionMembers ∧
      (∀ (s : Service) (arrival : Arrival) (chars chars' : List Char) (r : Request),
        decodeText decodeRequest (chars.map some) = .ok r →
        Rewritten (RecordVaries requestMembers) (chars.map some) (chars'.map some) →
          Lines.answerText s arrival chars' = Lines.answerText s arrival chars) ∧
      ∀ (s : Service) (arrival : Arrival) (c : Http.Call) (bytes : List UInt8) (r : Request),
        decodeText decodeRequest (glyphsOfBytes c.body.bytes) = .ok r →
        Rewritten (RecordVaries requestMembers) (glyphsOfBytes c.body.bytes) (glyphsOfBytes bytes) →
        c.body.bytes.length ≤ Http.bodyLimit → bytes.length ≤ Http.bodyLimit →
          Http.answer s arrival { c with body.bytes := bytes } = Http.answer s arrival c := by
  have request : IgnoresForm decodeRequest requestMembers := ignoresForm_decode lenient_request
  refine ⟨request, ignoresForm_decode lenient_actor, ignoresForm_decode lenient_author,
    ignoresForm_decode lenient_organization, ignoresForm_decode lenient_decision, ?_, ?_⟩
  · intro s arrival chars chars' r decoded rewritten
    exact answerText_of_decoded s arrival decoded ((request _ r decoded).2 _ rewritten)
  · intro s arrival c bytes r decoded rewritten fits fits'
    have decoded' := (request _ r decoded).2 _ rewritten
    have same := request_of_decoded decoded decoded' fits fits'
    exact answer_of_request same s arrival

/-- An actor with white space, an unknown member and a default spelled out. -/
theorem decoding_lenient_actor :
    decodeText decodeActor (glyphsOfText "\x7b\"commit_author\":\x7b\"login\":\"bob\"\x7d\x7d") =
        .ok { author := some { login := some "bob" } } ∧
      Rewritten (RecordVaries actorMembers)
        (glyphsOfText "\x7b\"commit_author\":\x7b\"login\":\"bob\"\x7d\x7d")
        (glyphsOfText "\x7b \"x\":[], \"sha\":\"\", \"commit_author\":\x7b\"login\":\"bob\"\x7d \x7d") ∧
      decodeText decodeActor
        (glyphsOfText "\x7b \"x\":[], \"sha\":\"\", \"commit_author\":\x7b\"login\":\"bob\"\x7d \x7d") =
          .ok { author := some { login := some "bob" } } := by
  have plain : Node.IsSpelled
      (.object [(.ok "commit_author", .object [(.ok "login", .text (.ok "bob"))] none)] none)
      (glyphsOfText "\x7b\"commit_author\":\x7b\"login\":\"bob\"\x7d\x7d") :=
    Node.isSpelled_iff.2 ⟨by cbv, rfl⟩
  have spaced : Node.IsSpelled
      (.object [(.ok "x", .array [] none), (.ok "sha", .text (.ok "")),
        (.ok "commit_author", .object [(.ok "login", .text (.ok "bob"))] none)] none)
      (glyphsOfText
        "\x7b \"x\":[], \"sha\":\"\", \"commit_author\":\x7b\"login\":\"bob\"\x7d \x7d") :=
    Node.isSpelled_iff.2 ⟨by cbv, rfl⟩
  have grammatical : Node.IsGrammatical (.array [] none) :=
    ⟨glyphsOfText "[]", _, _, .none, .emptyArray .none, .none⟩
  have varies : ∀ author : Node, MembersVary actorMembers [(.ok "commit_author", author)]
      [(.ok "x", .array [] none), (.ok "sha", emptyText), (.ok "commit_author", author)] :=
    fun author => .trans (.spellOut List.mem_cons_self rfl (by simp))
      (.insert (by decide) grammatical)
  have rewritten : Rewritten (RecordVaries actorMembers) _ _ :=
    ⟨_, _, plain, .object (varies _), spaced⟩
  have decoded : decodeText decodeActor
      (glyphsOfText "\x7b\"commit_author\":\x7b\"login\":\"bob\"\x7d\x7d") =
        .ok { author := some { login := some "bob" } } := by
    rw [decodeText_eq_ok_iff, plain.read_eq]
    exact ⟨rfl, rfl⟩
  exact ⟨decoded, rewritten, (decoding_lenient.2.1 _ _ decoded).2 _ rewritten⟩

/-- A member whose name is half of a pair of codes follows the grammar, but what it is inserted into
does not decode any more: a name has to be a text. -/
theorem halved_name_refused :
    decodeText decodeAuthor (glyphsOfText "\x7b\"login\":\"bob\"\x7d") =
        .ok { login := some "bob" } ∧
      (∃ t : Node, t.IsSpelled (glyphsOfText "\x7b\"login\":\"bob\",\"\\ud800\":[]\x7d")) ∧
      decodeText decodeAuthor (glyphsOfText "\x7b\"login\":\"bob\",\"\\ud800\":[]\x7d") =
        .error (.fault .malformed) := by
  have plain : Node.read (glyphsOfText "\x7b\"login\":\"bob\"\x7d") =
      (.object [(.ok "login", .text (.ok "bob"))] none, true) := by cbv
  have halved : Node.read (glyphsOfText "\x7b\"login\":\"bob\",\"\\ud800\":[]\x7d") =
      (.object [(.ok "login", .text (.ok "bob")), (.error .malformed, .array [] none)] none,
        true) := by cbv
  refine ⟨?_, ⟨_, Node.isSpelled_iff.2 ⟨halved, rfl⟩⟩, ?_⟩
  · rw [decodeText, plain]
    rfl
  · rw [decodeText, halved]
    rfl

end ClaExemption.Wire
