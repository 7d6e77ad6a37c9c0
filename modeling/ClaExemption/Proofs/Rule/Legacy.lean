import ClaExemption.Proofs.Rule.Exempts
import ClaExemption.Proofs.Session.Yields

/-!
# The simple grammar within the extended one

A value of the simple grammar has a login and perhaps an email. Written with all
three parts (`canonical`), the extended grammar reads it as one alternative with
the same patterns (`extended_exempts_canonical_iff`), so it exempts the same
actors but for those without a login, or without an email where `*` asks for one
(`simple_iff_extended`).
-/

namespace ClaExemption

open Text (Cut trimChars)

variable {a : Actor} {login : List Char} {email? : Option (List Char)}

/-- The value of the extended grammar with a login, an email, which is `*` if it is missing, and any
name. -/
def canonical (login : List Char) (email? : Option (List Char)) : String :=
  String.ofList (login ++ ';' :: (email?.getD ['*'] ++ [';', '*']))

/-- The canonical value is neither trimmed nor taken for a list. -/
theorem isAlternative_canonical_iff {alternative : List Char}
    (filled : ∀ c, login.head? = some c → Text.isBlank c = false) :
    IsAlternative (canonical login email?) alternative ↔
      alternative = login ++ ';' :: (email?.getD ['*'] ++ [';', '*']) := by
  have ending : login ++ ';' :: (email?.getD ['*'] ++ [';', '*']) =
      (login ++ ';' :: (email?.getD ['*'] ++ [';'])) ++ ['*'] := by simp
  have trimmed : trimChars (canonical login email?).toList =
      login ++ ';' :: (email?.getD ['*'] ++ [';', '*']) := by
    rw [canonical, String.toList_ofList]
    refine Text.trimChars_eq_self (fun c first => ?_) fun c last => ?_
    · cases login with
      | nil => cases first; rfl
      | cons d login => exact filled c first
    · rw [ending, List.getLast?_concat] at last
      cases last
      rfl
  have bare : ∀ inner, trimChars (canonical login email?).toList ≠ '[' :: (inner ++ [']']) := by
    intro inner bracketed
    have closing : '[' :: (inner ++ [']']) = ('[' :: inner) ++ [']'] := rfl
    have last := congrArg List.getLast? bracketed
    rw [trimmed, ending, closing, List.getLast?_concat, List.getLast?_concat] at last
    cases last
  constructor
  · rintro (- | ⟨bracketed, -, -⟩)
    · exact trimmed
    · exact absurd bracketed (bare _)
  · rintro rfl
    exact trimmed ▸ .alone bare

/-- The parts of the canonical value are what it was made of. -/
theorem cut_canonical (one : ';' ∉ login) (one' : ∀ email, email? = some email → ';' ∉ email) :
    Cut [';'] (login ++ ';' :: (email?.getD ['*'] ++ [';', '*']))
      [login, email?.getD ['*'], ['*']] := by
  have email : ';' ∉ email?.getD ['*'] := by
    cases email? with
    | none => decide
    | some email => exact one' email rfl
  exact Cut.of_not_mem one (Cut.of_not_mem email (.last (by simp)))

/-- The canonical value asks of an actor what its login and its email do. -/
theorem extended_exempts_canonical_iff (one : ';' ∉ login)
    (one' : ∀ email, email? = some email → ';' ∉ email)
    (filled : ∀ c, login.head? = some c → Text.isBlank c = false) :
    Grammar.extended.Exempts (canonical login email?) a ↔
      Meets a.login (String.ofList login) ∧
        ∀ email, email? = some email → Meets a.email (String.ofList email) := by
  have cut := cut_canonical one one'
  have email : Meets a.email (String.ofList (email?.getD ['*'])) ↔
      ∀ email, email? = some email → Meets a.email (String.ofList email) := by
    cases email? with
    | none => exact iff_of_true .any nofun
    | some email => exact ⟨fun meets _ e => Option.some.inj e ▸ meets, fun h => h email rfl⟩
  rw [← email]
  constructor
  · rintro ⟨alternative, alone, parts, cut', meets, meets', -⟩
    obtain rfl := (isAlternative_canonical_iff filled).1 alone
    obtain rfl := cut'.unique cut
    exact ⟨meets, meets'⟩
  · rintro ⟨meets, meets'⟩
    exact ⟨_, (isAlternative_canonical_iff filled).2 rfl, _, cut, meets, meets', .any⟩

/-- The simple grammar asks for a login that meets the first part of a value, and for an email that
meets the second one if there is one. -/
theorem simple_exempts_iff {value : String} {parts : List (List Char)}
    (cut : Cut [';'] (trimChars value.toList) (login :: parts)) :
    Grammar.simple.Exempts value a ↔ a.login ≠ "" ∧ MeetsPresent a.login (String.ofList login) ∧
      ∀ email, parts.head? = some email → MeetsPresent a.email (String.ofList email) := by
  have second : (login :: parts)[1]? = parts.head? := by
    rw [List.getElem?_cons_succ, List.head?_eq_getElem?]
  rw [← second]
  constructor
  · rintro ⟨present, parts', cut', meets⟩
    obtain rfl := cut'.unique cut
    exact ⟨present, meets⟩
  · rintro ⟨present, meets⟩
    exact ⟨present, _, cut, meets⟩

/-- The canonical value with the first two parts of a value of the simple grammar exempts whom that
value exempts, but for a login, and an email if the second part is `*`. -/
theorem simple_exempts_iff_extended {value : String} {parts : List (List Char)}
    (cut : Cut [';'] (trimChars value.toList) (login :: parts)) :
    Grammar.simple.Exempts value a ↔ Grammar.extended.Exempts (canonical login parts.head?) a ∧
      a.login ≠ "" ∧ (parts.head? = some ['*'] → a.email ≠ "") := by
  have filled : ∀ c, login.head? = some c → Text.isBlank c = false := fun _ =>
    not_isBlank_head_of_cut cut
  have one : ';' ∉ login := cut.not_mem _ List.mem_cons_self
  have one' : ∀ email, parts.head? = some email → ';' ∉ email := fun email second =>
    cut.not_mem email (List.mem_cons_of_mem _ (List.mem_of_mem_head? second))
  rw [extended_exempts_canonical_iff one one' filled, simple_exempts_iff cut]
  constructor
  · rintro ⟨present, ⟨meets, -⟩, meets'⟩
    exact ⟨⟨meets, fun email second => (meets' email second).1⟩, present,
      fun star => (meets' _ star).2 rfl⟩
  · rintro ⟨⟨meets, meets'⟩, present, asks⟩
    refine ⟨present, ⟨meets, fun _ => present⟩, fun email second =>
      ⟨meets' email second, fun star => asks (second.trans ?_)⟩⟩
    exact congrArg some (String.ofList_injective star)

/-- Every value of the simple grammar has a login and perhaps an email, and exempts whom the
canonical value with them exempts, if they have a login, and an email if the value's is `*`. So the
canonical value withdraws no exemption, and adds one only for want of a login or of an email that
`*` asks for. -/
theorem simple_iff_extended (value : String) (a : Actor) {session session' : Session}
    (reachable : session.cache.Reachable) (reachable' : session'.cache.Reachable) :
    ∃ login parts, Cut [';'] (trimChars value.toList) (login :: parts) ∧
      let email? := parts.head?
      let exempt := ((Rule.parse .simple value).matchActor a session).1
      let exempt' := ((Rule.parse .extended (canonical login email?)).matchActor a session').1
      (exempt = true ↔ exempt' = true ∧ a.login ≠ "" ∧ (email? = some ['*'] → a.email ≠ "")) ∧
      (exempt = true → exempt' = true) ∧
      (exempt' = true → exempt = false →
        a.login = "" ∨ (email? = some ['*'] ∧ a.email = "")) := by
  have cut := Text.cut_splitAt ';' (trimChars value.toList)
  obtain ⟨login, parts, split⟩ := List.exists_cons_of_ne_nil (Text.splitAt_ne_nil ';' _)
  rw [split] at cut
  refine ⟨login, parts, cut, ?_⟩
  intro email? exempt exempt'
  have old : exempt = true ↔ Grammar.simple.Exempts value a := by
    rw [Grammar.exempts_iff, ← (Rule.yields_matchActor _ a).value reachable]
  have new : exempt' = true ↔ Grammar.extended.Exempts (canonical login email?) a := by
    rw [Grammar.exempts_iff, ← (Rule.yields_matchActor _ a).value reachable']
  have iff : exempt = true ↔
      exempt' = true ∧ a.login ≠ "" ∧ (email? = some ['*'] → a.email ≠ "") := by
    rw [old, new, simple_exempts_iff_extended cut]
  refine ⟨iff, fun h => (iff.1 h).1, fun h h' => ?_⟩
  by_contra other
  rw [not_or, not_and] at other
  exact Bool.false_ne_true (h'.symm.trans (iff.2 ⟨h, other⟩))

/-- A value with white space, brackets and a part too many, and one whom it exempts. -/
theorem simple_iff_extended_bracketed :
    let session : Session := ⟨.fresh, .recording [], []⟩
    let session' : Session := ⟨.disabled, .logging, []⟩
    let actor := Actor.ofIdentity (some "[bob||rob") (some "b@x") (some "Bob")
    Cut [';'] (trimChars " [bob||rob;re:@x$;jane] ".toList)
      ["[bob||rob".toList, "re:@x$".toList, "jane]".toList] ∧
    canonical "[bob||rob".toList (some "re:@x$".toList) = "[bob||rob;re:@x$;*" ∧
    ((Rule.parse .simple " [bob||rob;re:@x$;jane] ").matchActor actor session).1 = true ∧
    ((Rule.parse .extended "[bob||rob;re:@x$;*").matchActor actor session').1 = true := by
  intro session session' actor
  have cut : Cut [';'] (trimChars " [bob||rob;re:@x$;jane] ".toList)
      ["[bob||rob".toList, "re:@x$".toList, "jane]".toList] :=
    Text.cut_singleton_iff.2 (by decide +kernel)
  have exempt :
      ((Rule.parse .simple " [bob||rob;re:@x$;jane] ").matchActor actor session).1 = true := by
    decide +kernel
  have written : canonical "[bob||rob".toList (some "re:@x$".toList) = "[bob||rob;re:@x$;*" := by
    decide +kernel
  have reachable : session.cache.Reachable := .fresh
  have reachable' : session'.cache.Reachable := .disabled
  obtain ⟨login, parts, cut', -, kept, -⟩ :=
    simple_iff_extended " [bob||rob;re:@x$;jane] " actor reachable reachable'
  cases cut'.unique cut
  exact ⟨cut, written, exempt, written ▸ kept exempt⟩

end ClaExemption
