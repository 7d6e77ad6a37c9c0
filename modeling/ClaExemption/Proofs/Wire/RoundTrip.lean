import ClaExemption.Proofs.Json.Records
import ClaExemption.Proofs.Keyed.Basic
import ClaExemption.Wire.Decode
import ClaExemption.Wire.Encode

/-!
# What is written is read back

Each kind of value of the domain has a decoder that inverts its encoder, put
together from those of its fields in their order. So its text decodes as the
value, and two values are never written alike (`RoundTrips`, `wire_roundTrips`).
-/

namespace ClaExemption

/-- A map is that of its entries. -/
theorem RuleMap.ofList_toList (m : RuleMap) : ofList m.toList = m := by
  have distinct : Keyed.Distinct m.entries :=
    List.Pairwise.imp (fun lt => Std.ne_of_lt lt) m.ascending
  have backwards : Keyed.Distinct m.entries.reverse :=
    List.pairwise_reverse.2 (distinct.imp Ne.symm)
  refine ext_get? fun k => (get?_ofList m.entries k).trans (Option.ext fun v => ?_)
  exact (Keyed.under_eq_some_iff backwards).trans
    (List.mem_reverse.trans (Keyed.under_eq_some_iff distinct).symm)

namespace Wire

open Json Json.Decoder

/-! ## Actors -/

theorem inverts_author : decodeAuthor.Inverts encodeAuthor := fun _ a =>
  Fills.decode_ofOptions (by decide) <|
    .ofOption inverts_int64 nofun a.id rfl <|
    .ofOption inverts_text nofun a.login rfl <|
    .ofOption inverts_text nofun a.email rfl <|
    .ofOption inverts_text nofun a.name rfl .nil

theorem inverts_actor : decodeActor.Inverts encodeActor := fun _ a =>
  Fills.decode_ofOptions (by decide) <|
    .of inverts_text a.sha <|
    .ofOption inverts_author nofun a.author rfl <|
    .of inverts_bool a.affiliated <|
    .of inverts_bool a.authorized .nil

/-! ## Organizations -/

theorem inverts_rules : decodeRules.Inverts encodeRules := fun origin m => by
  have entries : decodeMap decodeString origin (encodeRules m).node = .ok m.toList :=
    inverts_text.map origin m.toList
  rw [decodeRules, entries]
  exact congrArg _ m.ofList_toList

theorem inverts_organization : decodeOrganization.Inverts encodeOrganization := fun _ o =>
  Fills.decode_ofOptions (by decide) <|
    .of inverts_text o.name <|
    .ofOption inverts_rules nofun o.rules rfl .nil

/-! ## Requests -/

theorem inverts_request : decodeRequest.Inverts encodeRequest := fun _ r =>
  Fills.decode_object (by decide) <|
    .of (inverts_text.option nofun) r.organization <|
    .of inverts_text r.repository <|
    .of inverts_text r.projectId <|
    .of (inverts_actor.option nofun).list r.actors .nil

/-! ## Decisions -/

theorem inverts_ruleSource : decodeRuleSource.Inverts fun s => .text s.name :=
  inverts_choice fun s => by cases s <;> rfl

theorem inverts_eventKind : decodeEventKind.Inverts fun k => .text k.name :=
  inverts_choice fun k => by cases k; rfl

theorem inverts_selected : decodeSelected.Inverts encodeSelected := fun _ s =>
  Fills.decode_object (by decide) <|
    .of inverts_text s.key <|
    .of inverts_text s.value <|
    .of inverts_ruleSource s.source .nil

theorem inverts_bypass : decodeBypass.Inverts encodeBypass := fun _ b =>
  Fills.decode_object (by decide) <|
    .of inverts_text b.repo <|
    .of inverts_text b.config <|
    .of inverts_text b.actor .nil

theorem inverts_event : decodeEvent.Inverts encodeEvent := fun _ e =>
  Fills.decode_object (by decide) <|
    .of inverts_eventKind e.kind <|
    .of inverts_bypass e.data <|
    .of inverts_text e.projectId <|
    .of inverts_uint64 e.timestamp .nil

theorem inverts_decision : decodeDecision.Inverts encodeDecision := fun _ d =>
  Fills.decode_ofOptions (by decide) <|
    .of inverts_actor.list d.stillMissing <|
    .of inverts_actor.list d.allowlisted <|
    .ofOption inverts_selected nofun d.resolved rfl <|
    .of inverts_event.list d.events .nil

/-! ## Texts -/

/-- What is written for a value is read back as it, so that values differ in their texts, and a
value that has been read from any text is written as a text that stays as it is when it is read and
written again. -/
structure RoundTrips {α : Type} (decode : Decoder α) (encode : α → Value) : Prop where
  decoded (x : α) : decodeDocument decode (encode x).render = .ok x
  distinct : Function.Injective fun x => (encode x).render
  stable (s : String) (x : α) : decodeDocument decode s = .ok x →
    (decodeDocument decode (encode x).render).map (fun y => (encode y).render) =
      .ok (encode x).render

theorem roundTrips_of_inverts {α : Type} {decode : Decoder α} {encode : α → Value}
    (h : decode.Inverts encode) : RoundTrips decode encode := by
  refine ⟨h.decodeDocument_render, fun x y same => ?_, fun s x _ => ?_⟩
  · have read : decodeDocument decode (encode x).render = decodeDocument decode (encode y).render :=
      congrArg _ same
    rw [h.decodeDocument_render, h.decodeDocument_render] at read
    exact Except.ok.inj read
  · rw [h.decodeDocument_render x]
    rfl

/-- Every kind of value that is written is read back, missing actors in their places. So no two are
written alike: neither an absent author and one without members, nor absent rules and an empty map
of them, nor an absent text and an empty one. -/
theorem wire_roundTrips :
    RoundTrips decodeAuthor encodeAuthor ∧ RoundTrips decodeActor encodeActor ∧
    RoundTrips decodeRules encodeRules ∧ RoundTrips decodeOrganization encodeOrganization ∧
    RoundTrips decodeSelected encodeSelected ∧ RoundTrips decodeBypass encodeBypass ∧
    RoundTrips decodeEvent encodeEvent ∧ RoundTrips decodeRequest encodeRequest ∧
    RoundTrips decodeDecision encodeDecision ∧
    (∀ a : Actor, (encodeActor { a with author := none }).render ≠
      (encodeActor { a with author := some {} }).render) ∧
    (∀ o : Organization, (encodeOrganization { o with rules := none }).render ≠
      (encodeOrganization { o with rules := some .empty }).render) ∧
    (∀ a : Author, (encodeAuthor { a with login := none }).render ≠
      (encodeAuthor { a with login := some "" }).render) ∧
    ∀ r : Request, (encodeRequest { r with organization := none }).render ≠
      (encodeRequest { r with organization := some "" }).render := by
  have author := roundTrips_of_inverts inverts_author
  have actor := roundTrips_of_inverts inverts_actor
  have organization := roundTrips_of_inverts inverts_organization
  have request := roundTrips_of_inverts inverts_request
  refine ⟨author, actor, roundTrips_of_inverts inverts_rules, organization,
    roundTrips_of_inverts inverts_selected, roundTrips_of_inverts inverts_bypass,
    roundTrips_of_inverts inverts_event, request, roundTrips_of_inverts inverts_decision,
    fun a => actor.distinct.ne ?_, fun o => organization.distinct.ne ?_,
    fun a => author.distinct.ne ?_, fun r => request.distinct.ne ?_⟩
  · exact fun same => nomatch congrArg Actor.author same
  · exact fun same => nomatch congrArg Organization.rules same
  · exact fun same => nomatch congrArg Author.login same
  · exact fun same => nomatch congrArg Request.organization same

/-- What is absent is left out; what is empty is not. -/
example : (encodeAuthor { id := some (-1), login := some "" }).render =
    "\x7b\"id\":-1,\"login\":\"\"\x7d" := by
  decide +kernel

end Wire

end ClaExemption
