import ClaExemption.Proofs.Address.Reading
import ClaExemption.Proofs.Text.Framing

/-!
# What a host and a port bind

The host and the port are joined by a colon and read again as one text. As the
digits of a port hold no colon, the joining colon is the last one, so that the host
that is read is the host as given (`ofHost?_eq_some_iff`).
-/

namespace ClaExemption.Address

open Number (IsNumeral NoDigit)
open Text (append_cons_inj afterChar?_eq_some Reader.whole_eq_some)

theorem not_mem_of_isNumeral {t : List Char} {n : Nat} (h : IsNumeral 10 t n) : ':' ∉ t :=
  fun mem => absurd (h.digits ':' mem) (by decide)

/-- Texts that end with a colon and a number are the same only if their fronts are. -/
theorem front_inj {s s' t t' : List Char} {n n' : Nat} (ht : IsNumeral 10 t n)
    (ht' : IsNumeral 10 t' n') (same : s ++ ':' :: t = s' ++ ':' :: t') : s = s' ∧ n = n' := by
  have back : t.reverse ++ ':' :: s.reverse = t'.reverse ++ ':' :: s'.reverse := by
    simpa using congrArg List.reverse same
  obtain ⟨digits, fronts⟩ := append_cons_inj
    (List.mem_reverse.not.2 (not_mem_of_isNumeral ht))
    (List.mem_reverse.not.2 (not_mem_of_isNumeral ht')) back
  obtain rfl := List.reverse_injective digits
  exact ⟨List.reverse_injective fronts, ht.value.symm.trans ht'.value⟩

theorem readPort_eq_some_iff {s : List Char} {n : Nat} :
    readNumber portForm s = some (n, []) ↔ IsNumeral 10 s n ∧ n < UInt16.size := by
  rw [readNumber_eq_some_iff]
  constructor
  · rintro ⟨t, rfl, numeral, fits, -⟩
    rw [List.append_nil]
    exact ⟨numeral, fits.limit⟩
  · rintro ⟨numeral, lt⟩
    exact ⟨s, (List.append_nil s).symm, numeral, portForm.fits_of_lt rfl rfl lt, nofun⟩

/-- An endpoint comes of a host and a port if its own host is spelled so and its port is that. -/
theorem ofHost?_eq_some_iff {host : String} {port : UInt16} {e : Endpoint} :
    Endpoint.ofHost? host port = some e ↔ e.host.IsSpelled host.toList ∧ e.port = port := by
  have joined : (host ++ ":" ++ decimal port.toNat).toList =
      host.toList ++ ':' :: Nat.toDigits 10 port.toNat := by simp [decimal]
  have digits := Number.isNumeral_toDigits port.toNat
  rw [Endpoint.ofHost?, Endpoint.parse?, joined, Reader.whole_eq_some, Endpoint.read]
  simp only [Option.bind_eq_bind, Option.bind_eq_some_iff, afterChar?_eq_some, Prod.exists,
    Option.pure_def, Option.some.injEq, Prod.mk.injEq]
  constructor
  · rintro ⟨h, _, read, s, rfl, n, _, number, rfl, rfl⟩
    obtain ⟨t, cut, spelled⟩ := Host.read_sound read
    obtain ⟨numeral, -⟩ := readPort_eq_some_iff.1 number
    obtain ⟨rfl, rfl⟩ := front_inj digits numeral cut
    exact ⟨spelled, UInt16.ofNat_toNat⟩
  · rintro ⟨spelled, rfl⟩
    have ends : NoDigit 10 (':' :: Nat.toDigits 10 e.port.toNat) :=
      Number.noDigit_cons.2 (by decide)
    exact ⟨e.host, _, Host.read_complete spelled ends, _, rfl, e.port.toNat, [],
      readPort_eq_some_iff.2 ⟨digits, e.port.toNat_lt⟩, by rw [UInt16.ofNat_toNat], rfl⟩

/-- A host and a port bind an endpoint if and only if the host by itself is spelled as a host is,
and then the endpoint has the host that is spelled and the port that is given. -/
theorem bound_as_spelled (host : String) (port : UInt16) :
    ((Endpoint.ofHost? host port).isSome ↔ ∃ h : Host, h.IsSpelled host.toList) ∧
      ∀ e, Endpoint.ofHost? host port = some e ↔
        e.host.IsSpelled host.toList ∧ e.port = port := by
  refine ⟨?_, fun e => ofHost?_eq_some_iff⟩
  rw [Option.isSome_iff_exists]
  constructor
  · rintro ⟨e, bound⟩
    exact ⟨e.host, (ofHost?_eq_some_iff.1 bound).1⟩
  · rintro ⟨h, spelled⟩
    exact ⟨⟨h, port⟩, ofHost?_eq_some_iff.2 ⟨spelled, rfl⟩⟩

/-- A port in the host is not taken for the port, nor the last group of a bare address. -/
example : Endpoint.ofHost? "127.0.0.1:80" 9000 = none ∧ Endpoint.ofHost? "::1" 9000 = none ∧
    Endpoint.ofHost? "[::1%3]" 9000 = some ⟨.v6 ⟨[0, 0, 0, 0, 0, 0, 0, 1], rfl⟩ 3, 9000⟩ := by
  decide +kernel

end ClaExemption.Address
