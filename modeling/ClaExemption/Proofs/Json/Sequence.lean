import ClaExemption.Json.Decode
import Mathlib.Data.List.Forall2

/-!
# When sequences decode

A text decodes as a sequence exactly if it is one as a whole and each of its
items decodes (`decodeText_list_eq_ok_iff`). One bad item spoils the text.
-/

namespace ClaExemption.Json

variable {α β : Type} {d : Decoder α} {items : List Node} {values : List α}

/-- Two steps succeed if the first one does and the second one does with its value. -/
theorem bind_eq_ok_iff {ε : Type} {x : Except ε α} {f : α → Except ε β} {b : β} :
    (x >>= f) = .ok b ↔ ∃ a, x = .ok a ∧ f a = .ok b := by
  cases x with
  | error e => exact ⟨nofun, fun ⟨_, absurd, _⟩ => nomatch absurd⟩
  | ok a => exact ⟨fun h => ⟨a, rfl, h⟩, fun ⟨_, rfl, h⟩ => h⟩

theorem inside_eq_ok_iff {step : Step} {x : Except Failure α} {a : α} :
    inside step x = .ok a ↔ x = .ok a := by
  cases x with
  | error failure => exact ⟨nofun, nofun⟩
  | ok b => exact Iff.rfl

theorem unexpected_ne_ok (expected : String) (node : Node) (a : α) :
    unexpected expected node ≠ .ok a := by
  unfold unexpected
  cases node.found <;> exact nofun

/-- Items are decoded if the text goes on after them and each of them is decoded. -/
theorem decodeItems_eq_ok_iff {origin : Origin} {stop : Option Fault} {i : Nat} :
    decodeItems d origin stop i items = .ok values ↔
      stop = none ∧ List.Forall₂ (fun item value => d origin item = .ok value) items values := by
  induction items generalizing i values with
  | nil =>
    rw [List.forall₂_nil_left_iff]
    cases stop with
    | none => exact ⟨fun h => ⟨rfl, (Except.ok.inj h).symm⟩, fun ⟨_, h⟩ => congrArg _ h.symm⟩
    | some fault => exact ⟨nofun, nofun⟩
  | cons item items ih =>
    rw [List.forall₂_cons_left_iff]
    unfold decodeItems
    simp only [bind_eq_ok_iff, inside_eq_ok_iff, ih]
    constructor
    · rintro ⟨value, first, values, ⟨rfl, rest⟩, e⟩
      exact ⟨rfl, value, values, first, rest, (Except.ok.inj e).symm⟩
    · rintro ⟨rfl, value, values, first, rest, rfl⟩
      exact ⟨value, first, values, ⟨rfl, rest⟩, rfl⟩

theorem decodeList_eq_ok_iff {origin : Origin} {node : Node} :
    decodeList d origin node = .ok values ↔ ∃ items, node = .array items none ∧
      List.Forall₂ (fun item value => d origin item = .ok value) items values := by
  unfold decodeList
  split
  · next items stop =>
    rw [decodeItems_eq_ok_iff]
    constructor
    · rintro ⟨rfl, decoded⟩
      exact ⟨items, rfl, decoded⟩
    · rintro ⟨_, e, decoded⟩
      cases e
      exact ⟨rfl, decoded⟩
  · next other =>
    exact ⟨fun h => absurd h (unexpected_ne_ok _ _ _), fun ⟨items, e, _⟩ => absurd e (other _ _)⟩

/-- A text decodes if its value does and nothing more follows. -/
theorem decodeText_eq_ok_iff {s : List Glyph} {a : α} :
    decodeText d s = .ok a ↔ (Node.read s).2 = true ∧ d .text (Node.read s).1 = .ok a := by
  show (d .text (Node.read s).1 >>= fun value =>
    if (Node.read s).2 then .ok value else .error (.fault .malformed)) = .ok a ↔ _
  rw [bind_eq_ok_iff]
  constructor
  · rintro ⟨value, first, last⟩
    split at last
    · next atEnd => exact ⟨atEnd, first.trans last⟩
    · exact nomatch last
  · rintro ⟨atEnd, first⟩
    exact ⟨a, first, if_pos atEnd⟩

/-- A text decodes as a sequence if it is that of a whole one, of which each item decodes. -/
theorem decodeText_list_eq_ok_iff {s : List Glyph} :
    decodeText (decodeList d) s = .ok values ↔ ∃ items, Node.read s = (.array items none, true) ∧
      List.Forall₂ (fun item value => d .text item = .ok value) items values := by
  rw [decodeText_eq_ok_iff, decodeList_eq_ok_iff]
  constructor
  · rintro ⟨atEnd, items, whole, decoded⟩
    exact ⟨items, Prod.ext whole atEnd, decoded⟩
  · rintro ⟨items, whole, decoded⟩
    rw [whole]
    exact ⟨rfl, items, rfl, decoded⟩

end ClaExemption.Json
