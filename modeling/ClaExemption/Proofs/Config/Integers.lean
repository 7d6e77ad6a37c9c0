import ClaExemption.Proofs.Config.Layers

/-!
# Integers in the configuration

The port and the time that timings are kept are numbers of 16 and of 64 bits,
but no integer is cut to that size: it is kept if it is in range, and otherwise
there is no configuration, whether the integers are in a text alone, or in a file
or a variable (`integers_kept`).
-/

namespace ClaExemption

/-! ## Integers in the environment -/

namespace Environment

open Number (int64? integer? cutSign digits? digitIn? digitIn?_eq_some digitValue)

/-- An integer starts with a sign or a digit. -/
theorem head_of_integer? {s : List Char} {n : Int} (h : integer? s = some n) :
    ∃ c rest, s = c :: rest ∧ c < 'A' := by
  unfold integer? at h
  obtain ⟨ds, read, -⟩ := Option.map_eq_some_iff.1 h
  replace read : digits? (cutSign s).2 = some ds := read
  match s, read with
  | c :: rest, read =>
    refine ⟨c, rest, rfl, ?_⟩
    by_cases plus : c = '+'
    · subst plus; decide
    by_cases minus : c = '-'
    · subst minus; decide
    rw [show cutSign (c :: rest) = (false, c :: rest) by unfold cutSign; split <;> simp_all] at read
    obtain ⟨d, digit, -⟩ := Option.bind_eq_some_iff.1 (List.mapM_cons.symm.trans read)
    obtain ⟨small, -⟩ := digitIn?_eq_some.1 digit
    unfold digitValue at small
    split_ifs at small with range
    · exact lt_of_le_of_lt range.2 (by decide)
    all_goals omega

/-- No word for a truth value starts with a character before the letters. -/
theorem bool?_of_head {value : String} {c : Char} {rest : List Char}
    (starts : value.toList = c :: rest) (small : c < 'A') : bool? value = none := by
  have bound : c.toNat < 65 := small
  have lower : (Text.lowercase value).toList = c :: Text.lowerFrom [c] rest := by
    have noSigma : c ≠ Text.capitalSigma := fun e => by
      rw [e] at bound
      exact absurd bound (by decide)
    have notUpper : ¬ (c.val ≥ 'A'.val ∧ c.val ≤ 'Z'.val) := fun upper =>
      absurd (UInt32.le_iff_toNat_le.1 upper.1) (not_le.2 bound)
    have same : c.toLower = c := dif_neg notUpper
    rw [Text.lowercase, starts, Text.lowerFrom, if_neg noSigma, Text.lowerChar,
      if_pos (by omega), same, String.toList_ofList]
    rfl
  have noWord : ∀ word : String, 'A' ≤ word.toList.head?.getD 'A' →
      Text.lowercase value ≠ word := by
    intro word letter e
    rw [← e, lower] at letter
    exact absurd letter (not_le.2 small)
  unfold bool?
  split
  · next word => exact absurd word (noWord _ (by decide))
  · next word => exact absurd word (noWord _ (by decide))
  · rfl

theorem setting_of_int64? {value : String} {n : Int} (h : int64? value.toList = some n) :
    setting value = .integer n := by
  obtain ⟨c, rest, starts, small⟩ := head_of_integer? (Option.filter_eq_some_iff.1 h).1
  rw [setting, bool?_of_head starts small]
  simp only [h]

end Environment

/-! ## Integers as settings -/

namespace Setting

theorem toNat_of_toUInt64? {n : Int} {x : UInt64} (h : (integer n).toUInt64? = some x) :
    (x.toNat : Int) = n := by
  obtain ⟨⟨nonneg, small⟩, e⟩ := Option.ite_none_right_eq_some.1 h
  cases e
  rw [UInt64.toNat_ofNat_of_lt' (by omega)]
  omega

theorem toNat_of_toUInt16? {n : Int} {x : UInt16} (h : (integer n).toUInt16? = some x) :
    (x.toNat : Int) = n := by
  obtain ⟨wide, read, fits⟩ := Option.bind_eq_some_iff.1 h
  obtain ⟨small, e⟩ := Option.ite_none_right_eq_some.1 fits
  cases e
  rw [← toNat_of_toUInt64? read, UInt64.toNat_toUInt16, Nat.mod_eq_of_lt small]

end Setting

namespace Config

variable {fs : FileSystem Id} {home path : Option String} {env : Environment}
  {source : List (String × Setting)} {n m : Int} {result : Except ConfigError Config}

/-- Integers that a port and a time that timings are kept can be. -/
def InRange (n m : Int) : Prop := 1 ≤ n ∧ n ≤ 65535 ∧ 1 ≤ m

/-- The port and the time that timings are kept are these integers, and if they cannot be, there is
no configuration. -/
structure KeepsIntegers (n m : Int) (result : Except ConfigError Config) : Prop where
  inRange : ∀ c, result = .ok c → InRange n m
  port : ∀ c, result = .ok c → (c.server.port.toNat : Int) = n
  timing : ∀ c, result = .ok c → (c.timingSeconds.toNat : Int) = m
  refused : ¬ InRange n m → ∃ e, result = .error e

theorem keepsIntegers_of (port : ∀ c, result = .ok c →
      0 < c.server.port ∧ (Setting.integer n).toUInt16? = some c.server.port)
    (timing : ∀ c, result = .ok c →
      0 < c.timingSeconds ∧ (Setting.integer m).toUInt64? = some c.timingSeconds) :
    KeepsIntegers n m result := by
  have kept : ∀ c, result = .ok c →
      (c.server.port.toNat : Int) = n ∧ (c.timingSeconds.toNat : Int) = m := fun c h =>
    ⟨Setting.toNat_of_toUInt16? (port c h).2, Setting.toNat_of_toUInt64? (timing c h).2⟩
  have inRange : ∀ c, result = .ok c → InRange n m := fun c h => by
    have low : 0 < c.server.port.toNat := (port c h).1
    have positive : 0 < c.timingSeconds.toNat := (timing c h).1
    have high := c.server.port.toNat_lt
    obtain ⟨rfl, rfl⟩ := kept c h
    refine ⟨?_, ?_, ?_⟩ <;> omega
  refine ⟨inRange, fun c h => (kept c h).1, fun c h => (kept c h).2, fun outside => ?_⟩
  cases result with
  | error e => exact ⟨e, rfl⟩
  | ok c => exact absurd (inRange c rfl) outside

/-- The integer for a field comes from the variable that sets it, or else from the file, where it
stands under the name of the field or in a list that is not lost. -/
inductive SetsInteger (f : Field) (file : Setting) (env : Environment) (n : Int) : Prop
  | assigned (text : String) (last : f.assigned? env = some text)
      (written : Number.int64? text.toList = some n)
  | inFile (unassigned : f.assigned? env = none) (written : file.at? f.place = some (.integer n))
      (kept : f.isLost file env = false)

theorem SetsInteger.given_eq {f : Field} {file : Setting} (h : SetsInteger f file env n) :
    f.given file env = some (.integer n) := by
  cases h with
  | assigned text last written =>
    rw [Field.given_of_assigned last, Environment.setting_of_int64? written]
  | inFile unassigned written kept => exact Field.given_of_written unassigned written kept

/-- Integers for the port and for the time that timings are kept are never changed silently: in a
text alone, and with a file and variables, whichever of them gives each one. -/
theorem integers_kept :
    (∀ text source n m, Toml.parse? text.toList = some source →
      (layers [source]).at? Field.port.place = some (.integer n) →
      (layers [source]).at? Field.timingSeconds.place = some (.integer m) →
        KeepsIntegers n m (ofText text)) ∧
    ∀ fs home env path source n m, fileSettings fs home path = .ok source →
      Field.port.place.Alone env.settings → Field.timingSeconds.place.Alone env.settings →
      SetsInteger .port (layers [source]) env n →
      SetsInteger .timingSeconds (layers [source]) env m →
        KeepsIntegers n m (loaded fs home env path) := by
  constructor
  · intro text source n m parsed port timing
    have read : ∀ c, ofText text = .ok c →
        ofLayers [source] = .ok c ∧ c.server.port ≠ 0 ∧ c.timingSeconds ≠ 0 := by
      intro c h
      rw [ofText, parsed] at h
      obtain ⟨c', combined, checked⟩ := bind_eq_ok.1 h
      obtain ⟨rfl, port, -, timing, -⟩ := check_eq_ok_iff.1 checked
      exact ⟨combined, port, timing⟩
    refine keepsIntegers_of (fun c h => ?_) (fun c h => ?_)
    · obtain ⟨combined, nonzero, -⟩ := read c h
      have reads := reads_of_ofLayers combined .port
      rw [port] at reads
      exact ⟨UInt16.pos_iff_ne_zero.2 nonzero, reads⟩
    · obtain ⟨combined, -, nonzero⟩ := read c h
      have reads := reads_of_ofLayers combined .timingSeconds
      rw [timing] at reads
      exact ⟨UInt64.pos_iff_ne_zero.2 nonzero, reads⟩
  · intro fs home env path source n m ofFile portAlone timingAlone port timing
    refine keepsIntegers_of (fun c h => ?_) (fun c h => ?_)
    · obtain ⟨x, reads, holds⟩ := holds_given portAlone ofFile h
      rw [port.given_eq] at reads
      obtain ⟨-, -, -, -, -, usable⟩ := loaded_eq_ok_iff.1 h
      exact ⟨usable.port_pos, reads.trans (congrArg some holds.symm)⟩
    · obtain ⟨x, reads, holds⟩ := holds_given timingAlone ofFile h
      rw [timing.given_eq] at reads
      obtain ⟨-, -, -, -, -, usable⟩ := loaded_eq_ok_iff.1 h
      exact ⟨usable.timing_pos, reads.trans (congrArg some holds.symm)⟩

/-- The integer that a setting is. -/
def integerOf : Setting → Option Int
  | .integer n => some n
  | _ => none

theorem eq_integer_of {s : Option Setting} (h : s.bind integerOf = some n) :
    s = some (.integer n) := by
  obtain ⟨s, rfl, same⟩ := Option.bind_eq_some_iff.1 h
  cases s with
  | integer k => rw [show k = n from Option.some.inj same]
  | _ => cases same

/-- A port that is too large for 16 bits is refused; the greatest one is kept from a variable, and
from the file the greatest integer that can be written there. -/
theorem integers_kept_greatest :
    (∃ e, ofText "[server]\nport = 65536\n[metrics]\nttl_secs = 1\n" = .error e) ∧
      ∃ c, loaded (settingsFile "[metrics]\nttl_secs = 9223372036854775807\n") none
          [("SKIP_CLA__SERVER__PORT", "65535")] none = .ok c ∧
        (c.server.port.toNat : Int) = 65535 ∧
          (c.timingSeconds.toNat : Int) = 9223372036854775807 := by
  constructor
  · have port : ((Toml.parse? "[server]\nport = 65536\n[metrics]\nttl_secs = 1\n".toList).bind
        fun source => ((layers [source]).at? Field.port.place).bind integerOf) = some 65536 := by
      decide +kernel
    have timing : ((Toml.parse? "[server]\nport = 65536\n[metrics]\nttl_secs = 1\n".toList).bind
        fun source => ((layers [source]).at? Field.timingSeconds.place).bind integerOf) =
          some 1 := by
      decide +kernel
    obtain ⟨source, parsed, port⟩ := Option.bind_eq_some_iff.1 port
    rw [parsed, Option.bind_some] at timing
    refine (integers_kept.1 _ source 65536 1 parsed (eq_integer_of port)
      (eq_integer_of timing)).refused ?_
    rintro ⟨-, high, -⟩
    omega
  · obtain ⟨source, ofFile, timing⟩ : ∃ source,
        fileSettings (settingsFile "[metrics]\nttl_secs = 9223372036854775807\n") none none =
          .ok source ∧ ((layers [source]).at? Field.timingSeconds.place).bind integerOf =
            some 9223372036854775807 := by
      have read : ((fileSettings (settingsFile "[metrics]\nttl_secs = 9223372036854775807\n") none
          none).toOption.bind fun source =>
            ((layers [source]).at? Field.timingSeconds.place).bind integerOf) =
              some 9223372036854775807 := by decide +kernel
      obtain ⟨source, ofFile, timing⟩ := Option.bind_eq_some_iff.1 read
      exact ⟨source, eq_ok_of_toOption ofFile, timing⟩
    have both : loaded (settingsFile "[metrics]\nttl_secs = 9223372036854775807\n") none
        [("SKIP_CLA__SERVER__PORT", "65535")] none = .ok
          { server := { port := 65535 }, timingSeconds := 9223372036854775807 } :=
      eq_ok_of_toOption (by decide +kernel)
    have name : Field.port.variableName = "SKIP_CLA__SERVER__PORT" := by decide +kernel
    have sets := name ▸ Field.isSetBy_variableName .port
    have known := (adds_first sets "65535").setsFields nofun
    have unreached : Field.timingSeconds.place.isReached
        (Environment.settings [("SKIP_CLA__SERVER__PORT", "65535")]) = false := by decide +kernel
    have kept : Field.timingSeconds.isLost (layers [source])
        [("SKIP_CLA__SERVER__PORT", "65535")] = false := by
      rw [Field.isLost, unreached, Bool.and_false]
    have integers := integers_kept.2 _ _ _ _ source 65535 9223372036854775807 ofFile
      (Field.port.alone known) (Field.timingSeconds.alone known)
      (.assigned "65535" (by decide +kernel) (by decide +kernel))
      (.inFile (by decide +kernel) (eq_integer_of timing) kept)
    exact ⟨_, both, integers.port _ both, integers.timing _ both⟩

end Config

end ClaExemption
