import ClaExemption.Actor
import ClaExemption.Proofs.Text.Cutting
import ClaExemption.Proofs.Text.Framing
import Mathlib

/-!
# What a description tells of an actor

A description shows the id, the login, the name and the email of an actor in this
order, between marks, and a word in place of what is missing. The id cannot be
mistaken. The other three are texts of any form, which may spell the word or the
marks: `readsOneWay_iff` says when marks and texts can be told apart, `tells_iff`
when a text can be told from a missing one, and `description_identifies` that an
actor is identified by the description just if both can be done.
-/

namespace ClaExemption

open Text (append_cons_inj exists_earlier exists_later not_lt_of_first not_lt_of_last)

/-! ## Texts between marks -/

/-- What stands between the login and the name in a description. -/
def nameMark : List Char := "',username='".toList

/-- What stands between the name and the email in a description. -/
def emailMark : List Char := "',email='".toList

/-- A login, a name and an email with the marks between them. -/
def joined (login name email : List Char) : List Char :=
  login ++ (nameMark ++ (name ++ (emailMark ++ email)))

/-- Neither mark occurs a second time where it could be taken for the real one. A second copy may
share the quote at either end with it. -/
structure ReadsOneWay (login name email : List Char) : Prop where
  login : ¬ nameMark <:+: login ++ nameMark.dropLast
  name_after : ¬ nameMark <:+: nameMark.tail ++ name
  name_before : ¬ emailMark <:+: name ++ emailMark.dropLast
  email : ¬ emailMark <:+: emailMark.tail ++ email

variable {login name email login' name' email' : List Char}

/-- Texts with marks between them that read one way come from these texts only. -/
theorem ReadsOneWay.unique (h : ReadsOneWay login name email)
    (same : joined login' name' email' = joined login name email) :
    login' = login ∧ name' = name ∧ email' = email := by
  -- The first mark does not come earlier, nor the second one later.
  have first := not_lt_of_first h.login same
  have last : ¬ email'.length < email.length := by
    refine not_lt_of_last (p := login' ++ nameMark ++ name') (q := login ++ nameMark ++ name)
      h.email ?_
    simpa [joined] using same
  have len := congrArg List.length same
  simp only [joined, List.length_append] at len
  obtain ⟨r, rfl⟩ : login <+: login' :=
    List.prefix_of_prefix_length_le ⟨_, same.symm⟩ (List.prefix_append _ _) (Nat.not_lt.1 first)
  rw [List.length_append] at len
  unfold joined at same
  rw [List.append_assoc, List.append_cancel_left_eq] at same
  cases r with
  | nil =>
    rw [List.nil_append, List.append_cancel_left_eq] at same
    have before := not_lt_of_first h.name_before same
    obtain ⟨rfl, rest⟩ := List.append_inj same (by rw [List.length_nil] at len; omega)
    exact ⟨List.append_nil _, rfl, List.append_cancel_left rest⟩
  | cons c r =>
    -- A mark that comes later lies within the end of the real one and the name.
    refine absurd ?_ h.name_after
    obtain ⟨-, same⟩ : c = '\'' ∧ r ++ (nameMark ++ (name' ++ (emailMark ++ email'))) =
        nameMark.tail ++ (name ++ (emailMark ++ email)) := List.cons.inj same
    have whole : r ++ nameMark ++ (name' ++ (emailMark ++ email')) =
        nameMark.tail ++ name ++ (emailMark ++ email) := by simp [same]
    have within : r ++ nameMark <+: nameMark.tail ++ name := by
      refine List.prefix_of_prefix_length_le (List.prefix_append _ _) ⟨_, whole.symm⟩ ?_
      rw [List.length_cons] at len
      rw [List.length_append, List.length_append, List.length_tail]
      omega
    exact (List.suffix_append _ _).isInfix.trans within.isInfix

/-- Texts with marks between them are read in one way only just if no mark occurs a second time
where it could be taken for the real one. -/
theorem readsOneWay_iff : ReadsOneWay login name email ↔
    ∀ login' name' email', joined login' name' email' = joined login name email →
      login' = login ∧ name' = name ∧ email' = email := by
  have nameNe : nameMark ≠ [] := by decide
  have emailNe : emailMark ≠ [] := by decide
  refine ⟨fun h _ _ _ same => h.unique same, fun unique => ⟨?_, ?_, ?_, ?_⟩⟩
  · intro early
    obtain ⟨p, s, lt, e⟩ := exists_earlier nameNe early
    obtain ⟨rfl, -⟩ := unique p (s ++ name) email <|
      calc joined p (s ++ name) email
          = (p ++ (nameMark ++ s)) ++ (name ++ (emailMark ++ email)) := by simp [joined]
        _ = joined login name email := by rw [e, joined, List.append_assoc]
    exact Nat.lt_irrefl _ lt
  · intro late
    obtain ⟨p, s, lt, e⟩ := exists_later nameNe late
    obtain ⟨-, rfl, -⟩ := unique (login ++ p) s email <|
      calc joined (login ++ p) s email
          = login ++ ((p ++ (nameMark ++ s)) ++ (emailMark ++ email)) := by simp [joined]
        _ = joined login name email := by rw [e, joined, List.append_assoc]
    exact Nat.lt_irrefl _ lt
  · intro early
    obtain ⟨p, s, lt, e⟩ := exists_earlier emailNe early
    obtain ⟨-, rfl, -⟩ := unique login p (s ++ email) <|
      calc joined login p (s ++ email)
          = login ++ (nameMark ++ ((p ++ (emailMark ++ s)) ++ email)) := by simp [joined]
        _ = joined login name email := by rw [e, joined, List.append_assoc]
    exact Nat.lt_irrefl _ lt
  · intro late
    obtain ⟨p, s, lt, e⟩ := exists_later emailNe late
    obtain ⟨-, -, rfl⟩ := unique login (name ++ p) s <|
      calc joined login (name ++ p) s
          = login ++ (nameMark ++ (name ++ (p ++ (emailMark ++ s)))) := by simp [joined]
        _ = joined login name email := by rw [e, joined]
    exact Nat.lt_irrefl _ lt

/-! ## Members -/

/-- What an actor is known by; an actor without an author is known by nothing. -/
def Actor.identity (a : Actor) : Author := a.author.getD {}

/-- A member of an identity as a description shows it. -/
def shown (member : Option String) : List Char := (member.getD Actor.missing).toList

/-- The id as a description shows it. -/
def shownId (id : Option Int64) : List Char := shown (id.map fun id => toString id.toInt)

/-- A member that is there, and is not spelled like what stands for a missing one. -/
def Tells (member : Option String) : Prop := ∃ text, member = some text ∧ text ≠ Actor.missing

instance (member : Option String) : Decidable (Tells member) :=
  decidable_of_iff (member.any (· ≠ Actor.missing) = true) (by cases member <;> simp [Tells])

theorem tells_iff {member : Option String} :
    Tells member ↔ ∀ other, shown other = shown member → other = member := by
  constructor
  · rintro ⟨text, rfl, ne⟩ other same
    have texts := String.toList_inj.1 same
    cases other with
    | none => exact absurd texts.symm ne
    | some _ => exact congrArg some texts
  · intro only
    cases member with
    | none => exact absurd (only (some Actor.missing) rfl) (Option.some_ne_none _)
    | some text =>
      refine ⟨text, rfl, fun spelled => ?_⟩
      exact absurd (only none (by rw [spelled]; rfl)) (Option.some_ne_none _).symm

theorem toList_repr (n : Nat) : (Nat.repr n).toList = Nat.toDigits 10 n := by
  rw [Nat.repr, String.toList_ofList]

theorem isDigit_of_mem_repr {n : Nat} {c : Char} (mem : c ∈ (Nat.repr n).toList) :
    c.isDigit = true := by
  rw [toList_repr] at mem
  exact Nat.isDigit_of_mem_toDigits (by decide) (by decide) mem

theorem toList_toString_negSucc (n : Nat) :
    (toString (Int.negSucc n)).toList = '-' :: (Nat.repr (n + 1)).toList :=
  String.toList_append

/-- An integer is written with digits, after a minus sign if it is negative. -/
theorem isDigit_or_of_mem_toString {n : Int} {c : Char} (mem : c ∈ (toString n).toList) :
    c = '-' ∨ c.isDigit = true := by
  cases n with
  | ofNat m => exact .inr (isDigit_of_mem_repr mem)
  | negSucc m =>
    rw [toList_toString_negSucc, List.mem_cons] at mem
    exact mem.imp id isDigit_of_mem_repr

/-- Every shown id is another one. -/
theorem shownId_injective {id id' : Option Int64} (same : shownId id = shownId id') : id = id' := by
  -- A number is not written with a bracket.
  have tells : ∀ n : Int64, Tells (some (toString n.toInt)) := fun n => by
    refine ⟨_, rfl, fun spelled => ?_⟩
    have bracket : '(' ∈ (toString n.toInt).toList := by rw [spelled]; decide
    exact (isDigit_or_of_mem_toString bracket).elim (by decide) (by decide)
  cases id with
  | none =>
    cases id' with
    | none => rfl
    | some n => exact absurd (tells_iff.1 (tells n) none same) (Option.some_ne_none _).symm
  | some m =>
    have texts := tells_iff.1 (tells m) _ same.symm
    obtain ⟨n, rfl, written⟩ := Option.map_eq_some_iff.1 texts
    rw [Int64.toInt_inj.1 (Int.repr_injective written)]

theorem quote_not_mem_shownId (id : Option Int64) : '\'' ∉ shownId id := by
  cases id with
  | none => decide
  | some n => exact fun mem => (isDigit_or_of_mem_toString mem).elim (by decide) (by decide)

/-! ## Descriptions -/

/-- A login, a name and an email with the marks between them, as a description shows them. -/
def Author.texts (x : Author) : List Char := joined (shown x.login) (shown x.name) (shown x.email)

/-- A description is made of the identity alone. -/
theorem describe_eq (a : Actor) :
    a.describe = "id='" ++ (a.identity.id.map fun id => toString id.toInt).getD Actor.missing
      ++ "',login='" ++ a.identity.login.getD Actor.missing
      ++ "',username='" ++ a.identity.name.getD Actor.missing
      ++ "',email='" ++ a.identity.email.getD Actor.missing ++ "'" := by
  unfold Actor.identity Actor.describe
  cases a.author <;> rfl

theorem toList_describe (a : Actor) :
    a.describe.toList = "id='".toList ++ (shownId a.identity.id ++ '\'' ::
      (",login='".toList ++ (a.identity.texts ++ ['\'']))) := by
  have login : "',login='".toList = '\'' :: ",login='".toList := by decide +kernel
  have closing : "'".toList = ['\''] := rfl
  rw [describe_eq]
  unfold Author.texts joined nameMark emailMark shownId shown
  simp only [String.toList_append, List.append_assoc]
  rw [login, closing, List.cons_append]

/-- Two actors are described alike if the same id and the same texts with marks are shown. -/
theorem describe_eq_iff {a b : Actor} :
    b.describe = a.describe ↔
      b.identity.id = a.identity.id ∧ b.identity.texts = a.identity.texts := by
  rw [← String.toList_inj, toList_describe, toList_describe]
  constructor
  · intro same
    obtain ⟨ids, rest⟩ := append_cons_inj (quote_not_mem_shownId _) (quote_not_mem_shownId _)
      (List.append_cancel_left same)
    exact ⟨shownId_injective ids, List.append_cancel_right (List.append_cancel_left rest)⟩
  · rintro ⟨ids, texts⟩
    rw [ids, texts]

/-- An identity of which a description tells everything: no member is missing or spelled like what
stands for a missing one, and the texts and the marks between them read one way. -/
structure Author.IsPlain (x : Author) : Prop where
  login : Tells x.login
  name : Tells x.name
  email : Tells x.email
  marks : ReadsOneWay (shown x.login) (shown x.name) (shown x.email)

/-- The description of an actor tells its id. It tells the whole identity just if that is plain. -/
theorem description_identifies (a : Actor) :
    (∀ b : Actor, b.describe = a.describe → b.identity.id = a.identity.id) ∧
      ((∀ b : Actor, b.describe = a.describe → b.identity = a.identity) ↔ a.identity.IsPlain) := by
  refine ⟨fun b same => (describe_eq_iff.1 same).1, fun only => ?_, fun plain b same => ?_⟩
  · -- Whoever would be described alike is this actor.
    have known : ∀ x : Author, x.id = a.identity.id → x.texts = a.identity.texts → x = a.identity :=
      fun x ids texts => only { author := some x } (describe_eq_iff.2 ⟨ids, texts⟩)
    refine ⟨tells_iff.2 fun m same => ?_, tells_iff.2 fun m same => ?_,
      tells_iff.2 fun m same => ?_, readsOneWay_iff.2 fun l n e same => ?_⟩
    · exact congrArg Author.login
        (known { a.identity with login := m } rfl (by simp only [Author.texts, same]))
    · exact congrArg Author.name
        (known { a.identity with name := m } rfl (by simp only [Author.texts, same]))
    · exact congrArg Author.email
        (known { a.identity with email := m } rfl (by simp only [Author.texts, same]))
    · have texts : ∀ s, shown (some (String.ofList s)) = s := fun s => String.toList_ofList
      rw [← known ⟨a.identity.id, some (.ofList l), some (.ofList e), some (.ofList n)⟩ rfl
        (by rw [Author.texts, texts, texts, texts, same, Author.texts])]
      exact ⟨(texts l).symm, (texts n).symm, (texts e).symm⟩
  · obtain ⟨ids, texts⟩ := describe_eq_iff.1 same
    obtain ⟨logins, names, emails⟩ := plain.marks.unique texts
    have login := tells_iff.1 plain.login _ logins
    have name := tells_iff.1 plain.name _ names
    have email := tells_iff.1 plain.email _ emails
    calc b.identity = ⟨b.identity.id, b.identity.login, b.identity.email, b.identity.name⟩ := rfl
      _ = a.identity := by rw [ids, login, name, email]

/-- A bot whose members are ordinary texts is the only one that is described so. -/
theorem description_identifies_bot :
    let bot : Actor :=
      { author := some ⟨some 49699333, some "dependabot[bot]", some "b@x.io", some "Dependabot"⟩ }
    bot.identity.IsPlain ∧ ∀ b : Actor, b.describe = bot.describe → b.identity = bot.identity := by
  intro bot
  have plain : bot.identity.IsPlain := by
    refine ⟨by decide +kernel, by decide +kernel, by decide +kernel, ?_, ?_, ?_, ?_⟩ <;>
      decide +kernel
  exact ⟨plain, (description_identifies bot).2.2 plain⟩

/-- A login that is spelled like what stands for a missing one is described like none. -/
theorem missing_login_imitated :
    (Actor.ofIdentity (some "(null)") none none).describe = ({} : Actor).describe ∧
      (Actor.ofIdentity (some "(null)") none none).identity ≠ ({} : Actor).identity := by
  decide +kernel

/-- A mark that is spelled in a name can be taken for the one in front of the name. -/
example : (Actor.ofIdentity (some "bob") (some "") (some "x',username='y")).describe =
    (Actor.ofIdentity (some "bob',username='x") (some "") (some "y")).describe := by
  decide +kernel

end ClaExemption
