import ClaExemption.Json.Value
import Mathlib.Data.List.Basic

/-!
# Values are written on one line

A line feed inside a text is escaped, and nothing else that is written for a
value holds one (`Value.newline_not_mem_chars`). So no value breaks the line it
is written on.
-/

namespace ClaExemption.Json

theorem newline_not_mem_controlEscape {c : Char} (h : c.toNat < 0x20) : '\n' ∉ controlEscape c := by
  have digits : ∀ n < 16, '\n' ≠ Nat.digitChar n := by decide
  simp only [controlEscape, List.mem_cons, List.not_mem_nil, or_false, not_or]
  exact ⟨by decide, by decide, by decide, by decide, digits _ (by omega), digits _ (by omega)⟩

theorem newline_not_mem_escapeChar (c : Char) : '\n' ∉ escapeChar c := by
  unfold escapeChar
  split_ifs with _ _ newline _ _ _ _ low
  any_goals decide
  · exact newline_not_mem_controlEscape low
  · exact fun mem => newline (List.mem_singleton.1 mem).symm

theorem newline_not_mem_quote (s : String) : '\n' ∉ quote s := by
  simp only [quote, List.mem_cons, List.mem_append, List.mem_flatMap, List.not_mem_nil, or_false,
    not_or, not_exists, not_and]
  exact ⟨by decide, fun c _ => newline_not_mem_escapeChar c, by decide⟩

theorem newline_not_mem_intChars (n : Int) : '\n' ∉ intChars n := by
  have digits : '\n' ∉ Nat.toDigits 10 n.natAbs := fun mem =>
    absurd (Nat.isDigit_of_mem_toDigits (by decide) (by decide) mem) (by decide)
  unfold intChars
  split
  · exact List.not_mem_cons_of_ne_of_not_mem (by decide) digits
  · exact digits

mutual

/-- No value is written with a line feed. -/
theorem Value.newline_not_mem_chars (v : Value) : '\n' ∉ v.chars := by
  match v with
  | .null => decide
  | .bool true => decide
  | .bool false => decide
  | .int n => exact newline_not_mem_intChars n
  | .text s => exact newline_not_mem_quote s
  | .array [] => decide
  | .array (item :: items) =>
    simp only [chars, List.mem_cons, List.mem_append, not_or]
    exact ⟨by decide, item.newline_not_mem_chars, newline_not_mem_charsOfItems items⟩
  | .object [] => decide
  | .object ((name, value) :: members) =>
    simp only [chars, List.mem_cons, List.mem_append, not_or]
    exact ⟨by decide, newline_not_mem_quote name, by decide, value.newline_not_mem_chars,
      newline_not_mem_charsOfMembers members⟩

theorem Value.newline_not_mem_charsOfItems (items : List Value) : '\n' ∉ charsOfItems items := by
  match items with
  | [] => decide
  | item :: items =>
    simp only [charsOfItems, List.mem_cons, List.mem_append, not_or]
    exact ⟨by decide, item.newline_not_mem_chars, newline_not_mem_charsOfItems items⟩

theorem Value.newline_not_mem_charsOfMembers (members : List (String × Value)) :
    '\n' ∉ charsOfMembers members := by
  match members with
  | [] => decide
  | (name, value) :: members =>
    simp only [charsOfMembers, List.mem_cons, List.mem_append, not_or]
    exact ⟨by decide, newline_not_mem_quote name, by decide, value.newline_not_mem_chars,
      newline_not_mem_charsOfMembers members⟩

end

end ClaExemption.Json
