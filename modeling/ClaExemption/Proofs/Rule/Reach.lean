import ClaExemption.Proofs.Session.Tries

/-!
# Which expressions of a rule matching comes to

An actor is matched from left to right, and no further than needed: `Seeks` says
when one pattern looks for an expression, `Triple.Reaches` when an alternative
comes to it, and `Rule.Reaches` when a rule does.
`Rule.triesExactly_matchActor` says that the matcher compiles these and no
others.
-/

namespace ClaExemption

open SessionM

/-- A pattern looks for an expression in a value, which is there. -/
structure Pattern.Seeks (p : Pattern) (value source : String) : Prop where
  regex : p = .regex source
  present : value ≠ ""

/-- An actor is asked for an expression of an alternative, after fitting the patterns before it. -/
inductive Triple.Reaches (t : Triple) (a : Actor) (source : String) : Prop
  | login : t.login.Seeks a.login source → Reaches t a source
  | email : t.login.fits a.login = true → t.email.Seeks a.email source → Reaches t a source
  | name : t.login.fits a.login = true → t.email.fits a.email = true →
    t.name.Seeks a.name source → Reaches t a source

/-- An actor is asked for an expression of a rule: in the extended grammar by an alternative after
others that do not admit the actor; in the simple grammar for the login, or for the email if the
login is there and fits. -/
inductive Rule.Reaches (a : Actor) (source : String) : Rule → Prop
  | extended {alternatives : List Triple} {t : Triple} : ComesTo (·.admits a) alternatives t →
    t.Reaches a source → Reaches a source (.extended alternatives)
  | login {login : Pattern} {email : Option Pattern} : login.Seeks a.login source →
    Reaches a source (.simple login email)
  | email {login email : Pattern} : a.login ≠ "" → login.fitsPresent a.login = true →
    email.Seeks a.email source → Reaches a source (.simple login (some email))

theorem Pattern.seeks_regex_iff {source source' value : String} :
    (Pattern.regex source').Seeks value source ↔ source = source' ∧ value ≠ "" := by
  constructor
  · rintro ⟨same, present⟩
    cases same
    exact ⟨rfl, present⟩
  · rintro ⟨rfl, present⟩
    exact ⟨rfl, present⟩

/-- The expression of a pattern has a property. -/
def Pattern.Within (P : String → Prop) : Pattern → Prop
  | .regex source => P source
  | _ => True

/-- The expressions of the patterns of an alternative have a property. -/
structure Triple.Within (P : String → Prop) (t : Triple) : Prop where
  login : t.login.Within P
  email : t.email.Within P
  name : t.name.Within P

theorem Pattern.Within.of_seeks {P : String → Prop} {p : Pattern} (h : p.Within P)
    {value source : String} (seeks : p.Seeks value source) : P source := by
  rw [seeks.regex] at h
  exact h

theorem Triple.Within.of_reaches {P : String → Prop} {t : Triple} (h : t.Within P) {a : Actor}
    {source : String} (reaches : t.Reaches a source) : P source := by
  cases reaches with
  | login seeks => exact h.login.of_seeks seeks
  | email _ seeks => exact h.email.of_seeks seeks
  | name _ _ seeks => exact h.name.of_seeks seeks

theorem Pattern.triesExactly_matchValue (p : Pattern) (value : String) :
    TriesExactly (p.matchValue value) (p.Seeks value) := by
  cases p with
  | any => exact .pure_of_none fun _ seeks => nomatch seeks.regex
  | empty => exact .pure_of_none fun _ seeks => nomatch seeks.regex
  | exact literal => exact .pure_of_none fun _ seeks => nomatch seeks.regex
  | regex source =>
    by_cases missing : value = ""
    · rw [matchValue, if_pos missing]
      exact .pure_of_none fun _ seeks => seeks.present missing
    · rw [matchValue, if_neg missing]
      refine (triesExactly_search source value).congr fun _ => ?_
      rw [seeks_regex_iff, and_iff_left missing]

theorem Pattern.triesExactly_matchPresent (p : Pattern) (value : String) :
    TriesExactly (p.matchPresent value) (p.Seeks value) := by
  cases p with
  | any => exact .pure_of_none fun _ seeks => nomatch seeks.regex
  | empty => exact triesExactly_matchValue .empty value
  | regex source => exact triesExactly_matchValue (.regex source) value
  | exact literal => exact triesExactly_matchValue (.exact literal) value

theorem Triple.triesExactly_matchActor (t : Triple) (a : Actor) :
    TriesExactly (t.matchActor a) (t.Reaches a) := by
  have run : TriesExactly (t.matchActor a) fun source => t.login.Seeks a.login source ∨
      (t.login.fits a.login = true ∧
        (t.email.Seeks a.email source ∨
          (t.email.fits a.email = true ∧ t.name.Seeks a.name source))) :=
    triesExactly_both (t.login.yields_matchValue _) (t.login.triesExactly_matchValue _)
      (triesExactly_both (t.email.yields_matchValue _) (t.email.triesExactly_matchValue _)
        (t.name.triesExactly_matchValue _))
  refine run.congr fun source => ⟨?_, ?_⟩
  · rintro (seeks | ⟨fits, seeks | ⟨fits', seeks⟩⟩)
    · exact .login seeks
    · exact .email fits seeks
    · exact .name fits fits' seeks
  · rintro (seeks | ⟨fits, seeks⟩ | ⟨fits, fits', seeks⟩)
    · exact .inl seeks
    · exact .inr ⟨fits, .inl seeks⟩
    · exact .inr ⟨fits, .inr ⟨fits', seeks⟩⟩

theorem Rule.reaches_extended_iff {a : Actor} {source : String} {alternatives : List Triple} :
    (Rule.extended alternatives).Reaches a source ↔
      ∃ t, ComesTo (·.admits a) alternatives t ∧ t.Reaches a source := by
  constructor
  · rintro ⟨comes, reaches⟩
    exact ⟨_, comes, reaches⟩
  · rintro ⟨t, comes, reaches⟩
    exact .extended comes reaches

theorem Rule.reaches_simple_iff {a : Actor} {source : String} {login : Pattern}
    {email : Option Pattern} :
    (Rule.simple login email).Reaches a source ↔ a.login ≠ "" ∧ (login.Seeks a.login source ∨
      (login.fitsPresent a.login = true ∧ ∃ p, email = some p ∧ p.Seeks a.email source)) := by
  constructor
  · rintro (_ | seeks | ⟨present, fits, seeks⟩)
    · exact ⟨seeks.present, .inl seeks⟩
    · exact ⟨present, .inr ⟨fits, _, rfl, seeks⟩⟩
  · rintro ⟨present, seeks | ⟨fits, p, rfl, seeks⟩⟩
    · exact .login seeks
    · exact .email present fits seeks

/-- Matching an actor compiles the expressions that the rule comes to, and no others. -/
theorem Rule.triesExactly_matchActor (r : Rule) (a : Actor) :
    TriesExactly (r.matchActor a) (r.Reaches a) := by
  cases r with
  | extended alternatives =>
    refine TriesExactly.congr ?_ fun _ => reaches_extended_iff.symm
    exact triesExactly_anyOf (fun t => t.yields_matchActor a)
      (fun t => t.triesExactly_matchActor a) alternatives
  | simple login email =>
    refine TriesExactly.congr ?_ fun _ => reaches_simple_iff.symm
    unfold matchActor
    dsimp only
    by_cases missing : a.login = ""
    · rw [if_pos missing]
      exact .pure_of_none fun _ h => h.1 missing
    · rw [if_neg missing]
      refine TriesExactly.congr ?_ fun _ => (and_iff_right missing).symm
      refine triesExactly_both (login.yields_matchPresent _) (login.triesExactly_matchPresent _) ?_
      cases email with
      | none => exact .pure_of_none fun _ ⟨_, h, _⟩ => nomatch h
      | some p =>
        refine (p.triesExactly_matchPresent _).congr fun _ => ⟨fun seeks => ⟨p, rfl, seeks⟩, ?_⟩
        rintro ⟨_, ⟨⟩, seeks⟩
        exact seeks

end ClaExemption
