import ClaExemption.Number.Digit
import ClaExemption.Text.Reader
import ClaExemption.Toml.Space

/-!
# Texts in TOML documents

A text stands in double quotes, with escapes, or in single quotes, without any.
Three quotes on either side allow it to run over lines.
-/

namespace ClaExemption.Toml

open Text (Reader)

/-- The character with the code that hexadecimal digits give, if it is one. -/
def charOfHex? (digits : List Char) : Option Char := do
  let code := Number.ofDigits 16 (← digits.mapM (Number.digitIn? 16))
  if Nat.isValidChar code then some (Char.ofNat code) else none

/-- The number of digits of an escape by code, by the letter after the backslash. -/
def codeLength? : Char → Option Nat
  | 'x' => some 2
  | 'u' => some 4
  | 'U' => some 8
  | _ => none

/-- The character that a letter after a backslash stands for. -/
def namedEscape? : Char → Option Char
  | 'b' => some (Char.ofNat 0x08)
  | 't' => some '\t'
  | 'n' => some '\n'
  | 'f' => some (Char.ofNat 0x0c)
  | 'r' => some '\r'
  | 'e' => some (Char.ofNat 0x1b)
  | '"' => some '"'
  | '\\' => some '\\'
  | _ => none

/-- Reads an escape after its backslash. -/
def readEscape : Reader Char
  | [] => none
  | c :: rest =>
    match codeLength? c with
    | some n =>
      if rest.length < n then none
      else (charOfHex? (rest.take n)).map fun c => (c, rest.drop n)
    | none => (namedEscape? c).map fun c => (c, rest)

theorem length_of_readEscape {s rest : List Char} {c : Char} (h : readEscape s = some (c, rest)) :
    rest.length < s.length := by
  cases s with
  | nil => simp [readEscape] at h
  | cons d s =>
    simp only [readEscape] at h
    split at h
    · split at h
      · simp at h
      · obtain ⟨_, _, h⟩ := Option.map_eq_some_iff.1 h
        simp only [Prod.mk.injEq] at h
        obtain ⟨_, rfl⟩ := h
        simp only [List.length_drop, List.length_cons]
        omega
    · obtain ⟨_, _, h⟩ := Option.map_eq_some_iff.1 h
      simp only [Prod.mk.injEq] at h
      obtain ⟨_, rfl⟩ := h
      simp

/-! ## On one line -/

/-- Reads the rest of a text in double quotes, after the characters so far, the last first. -/
def readBasic (acc : List Char) (s : List Char) : Option (List Char × List Char) :=
  match s with
  | [] => none
  | '"' :: rest => some (acc.reverse, rest)
  | '\\' :: rest =>
    match h : readEscape rest with
    | none => none
    | some (c, after) =>
      have := length_of_readEscape h
      readBasic (c :: acc) after
  | c :: rest => if isPlain c then readBasic (c :: acc) rest else none
termination_by s.length
decreasing_by all_goals simp; try omega

/-- Reads the rest of a text in single quotes. -/
def readLiteral : Reader (List Char)
  | [] => none
  | '\'' :: rest => some ([], rest)
  | c :: rest =>
    if isPlain c then (readLiteral rest).map fun (cs, rest) => (c :: cs, rest) else none

/-! ## Over several lines -/

/-- What a run of quotes inside a text over several lines means: up to two are content, and three
end the text, with up to two more in front of them. -/
inductive QuoteRun where
  | content
  | ends (quotes : Nat)
  | tooLong

/-- The meaning of so many quotes in a row. -/
def QuoteRun.ofLength (n : Nat) : QuoteRun :=
  if n < 3 then .content else if n < 6 then .ends (n - 3) else .tooLong

/-- The length of the run of a character at the front. -/
def runLength (c : Char) : List Char → Nat
  | d :: rest => if d = c then runLength c rest + 1 else 0
  | [] => 0

/-- Drops blanks and line ends. -/
def skipBlankLines : List Char → List Char
  | ' ' :: rest => skipBlankLines rest
  | '\t' :: rest => skipBlankLines rest
  | '\n' :: rest => skipBlankLines rest
  | '\r' :: '\n' :: rest => skipBlankLines rest
  | s => s

/-- What follows a line end that a backslash hides, with the space around it; none if there is no
line end. -/
def afterHiddenEnd? (s : List Char) : Option (List Char) :=
  (afterLineEnd? (skipBlanks s)).map skipBlankLines

theorem length_skipBlankLines (s : List Char) : (skipBlankLines s).length ≤ s.length := by
  fun_induction skipBlankLines s <;> simp <;> omega

theorem length_afterHiddenEnd {s rest : List Char} (h : afterHiddenEnd? s = some rest) :
    rest.length < s.length := by
  obtain ⟨after, found, rfl⟩ := Option.map_eq_some_iff.1 h
  have h₁ := length_afterLineEnd found
  have h₂ := length_skipBlanks s
  have h₃ := length_skipBlankLines after
  omega

/-- Reads the rest of a text in three double quotes, after the characters so far, the last first. -/
def readLongBasic (acc : List Char) (s : List Char) : Option (List Char × List Char) :=
  match s with
  | [] => none
  | '"' :: rest =>
    match QuoteRun.ofLength (runLength '"' rest + 1) with
    | .content => readLongBasic ('"' :: acc) rest
    | .ends quotes => some (acc.reverse ++ List.replicate quotes '"', rest.drop (quotes + 2))
    | .tooLong => none
  | '\\' :: rest =>
    match h : afterHiddenEnd? rest with
    | some after =>
      have := length_afterHiddenEnd h
      readLongBasic acc after
    | none =>
      match h : readEscape rest with
      | none => none
      | some (c, after) =>
        have := length_of_readEscape h
        readLongBasic (c :: acc) after
  | '\r' :: '\n' :: rest => readLongBasic ('\n' :: '\r' :: acc) rest
  | c :: rest => if isPlain c || c == '\n' then readLongBasic (c :: acc) rest else none
termination_by s.length
decreasing_by all_goals simp; try omega

/-- Reads the rest of a text in three single quotes. -/
def readLongLiteral (acc : List Char) : List Char → Option (List Char × List Char)
  | [] => none
  | '\'' :: rest =>
    match QuoteRun.ofLength (runLength '\'' rest + 1) with
    | .content => readLongLiteral ('\'' :: acc) rest
    | .ends quotes => some (acc.reverse ++ List.replicate quotes '\'', rest.drop (quotes + 2))
    | .tooLong => none
  | '\r' :: '\n' :: rest => readLongLiteral ('\n' :: '\r' :: acc) rest
  | c :: rest => if isPlain c || c == '\n' then readLongLiteral (c :: acc) rest else none

/-- Drops a line end that follows three quotes. -/
def dropFirstEnd (s : List Char) : List Char := (afterLineEnd? s).getD s

/-- Reads a text of any kind. -/
def readText : Reader (List Char)
  | '"' :: '"' :: '"' :: rest => readLongBasic [] (dropFirstEnd rest)
  | '\'' :: '\'' :: '\'' :: rest => readLongLiteral [] (dropFirstEnd rest)
  | '"' :: rest => readBasic [] rest
  | '\'' :: rest => readLiteral rest
  | _ => none

end ClaExemption.Toml
