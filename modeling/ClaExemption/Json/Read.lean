import ClaExemption.Json.Node
import ClaExemption.Number.Digit
import ClaExemption.Text.Utf8

/-!
# Reading JSON texts

`Node.read` reads one value and tells whether more than white space follows it.
The grammar is the strict one: no comments, no trailing commas, no leading
zeros, no control characters inside texts.
-/

namespace ClaExemption.Json

/-- The characters of a list of bytes, with a mark for each byte that belongs to none. -/
def glyphsOfBytes (bytes : List UInt8) : List Glyph :=
  match bytes with
  | [] => []
  | b :: rest =>
    match h : Text.Utf8.step 0 b rest with
    | .ok (c, after) =>
      have := Text.Utf8.length_of_step h
      some c :: glyphsOfBytes after
    | .error _ => none :: glyphsOfBytes rest
termination_by bytes.length
decreasing_by all_goals simp; try omega

/-- The characters of a text. -/
def glyphsOfText (s : String) : List Glyph := s.toList.map some

/-- Skips spaces, tabs and line ends. -/
def skipSpace : List Glyph → List Glyph
  | some ' ' :: rest => skipSpace rest
  | some '\t' :: rest => skipSpace rest
  | some '\n' :: rest => skipSpace rest
  | some '\r' :: rest => skipSpace rest
  | s => s

/-- The fault of finding something else, or nothing, at the front of the rest. -/
def faultAt : List Glyph → Fault
  | [] => .ended
  | _ => .malformed

/-! ## Words -/

/-- Matches the remaining letters of a word. -/
def matchWord : List Char → List Glyph → Except Fault (List Glyph)
  | [], rest => .ok rest
  | _, [] => .error .ended
  | c :: cs, g :: rest => if g = some c then matchWord cs rest else .error .malformed

/-! ## Numbers -/

/-- The value of a digit in a base up to sixteen. -/
def digitIn? (base : Nat) (g : Glyph) : Option Nat := g.bind (Number.digitIn? base)

/-- The digits at the front. -/
def takeDigits : List Glyph → List Nat × List Glyph
  | [] => ([], [])
  | g :: rest =>
    match digitIn? 10 g with
    | some d =>
      let (ds, after) := takeDigits rest
      (d :: ds, after)
    | none => ([], g :: rest)

/-- The digits before the point: at least one, and no zero before others. -/
def readWhole (s : List Glyph) : Except Fault (List Nat × List Glyph) :=
  match takeDigits s with
  | ([], rest) => .error (faultAt rest)
  | (0 :: _ :: _, _) => .error .malformed
  | (ds, rest) => .ok (ds, rest)

/-- The digits after a point, at least one. -/
def readFraction (s : List Glyph) : Except Fault (Option (List Nat) × List Glyph) :=
  match s with
  | some '.' :: rest =>
    match takeDigits rest with
    | ([], rest) => .error (faultAt rest)
    | (ds, rest) => .ok (some ds, rest)
  | _ => .ok (none, s)

/-- The sign of an exponent. -/
def readSign : List Glyph → Bool × List Glyph
  | some '+' :: rest => (false, rest)
  | some '-' :: rest => (true, rest)
  | rest => (false, rest)

/-- An exponent after its letter, with at least one digit. -/
def readExponent (s : List Glyph) : Except Fault (Option (Bool × List Nat) × List Glyph) :=
  match s with
  | some 'e' :: rest | some 'E' :: rest =>
    let (negative, rest) := readSign rest
    match takeDigits rest with
    | ([], rest) => .error (faultAt rest)
    | (ds, rest) => .ok (some (negative, ds), rest)
  | _ => .ok (none, s)

/-- A number after its sign. -/
def readNumber (negative : Bool) (s : List Glyph) : Except Fault (Numeral × List Glyph) := do
  let (whole, s) ← readWhole s
  let (fraction, s) ← readFraction s
  let (exponent, s) ← readExponent s
  return (Written.value ⟨negative, whole, fraction, exponent⟩, s)

/-! ## Texts -/

/-- The character that a letter after a backslash stands for, `u` apart. -/
def simpleEscape? : Char → Option Char
  | '"' => some '"'
  | '\\' => some '\\'
  | '/' => some '/'
  | 'b' => some (Char.ofNat 0x08)
  | 'f' => some (Char.ofNat 0x0c)
  | 'n' => some '\n'
  | 'r' => some '\r'
  | 't' => some '\t'
  | _ => none

/-- The number of bytes of a piece of text. -/
def byteLength : List Glyph → Nat
  | [] => 0
  | some c :: rest => c.utf8Size + byteLength rest
  | none :: rest => 1 + byteLength rest

/-- The code after the letter `u`: four hexadecimal digits. With fewer than four bytes left the
text has ended too early, whatever they are. -/
def readCode (s : List Glyph) : Except Fault (Nat × List Glyph) :=
  let fault := if byteLength (s.take 4) < 4 then .error .ended else .error .malformed
  match s with
  | a :: b :: c :: d :: rest =>
    match digitIn? 16 a, digitIn? 16 b, digitIn? 16 c, digitIn? 16 d with
    | some a, some b, some c, some d => .ok (((a * 16 + b) * 16 + c) * 16 + d, rest)
    | _, _, _, _ => fault
  | _ => fault

theorem length_of_readCode {s rest : List Glyph} {n : Nat} (h : readCode s = .ok (n, rest)) :
    rest.length < s.length := by
  unfold readCode at h
  dsimp only at h
  split at h
  · split at h
    · simp only [Except.ok.injEq, Prod.mk.injEq] at h
      obtain ⟨_, rfl⟩ := h
      simp
      omega
    · split at h <;> simp at h
  · split at h <;> simp at h

/-- Whether a code is the first half of a pair that writes one character. -/
def isLeading (n : Nat) : Bool := 0xd800 ≤ n && n ≤ 0xdbff

/-- Whether a code is the second half of such a pair. -/
def isTrailing (n : Nat) : Bool := 0xdc00 ≤ n && n ≤ 0xdfff

/-- The character of a code after the letter `u`, for which two codes may have to pair up. -/
def readUnicode (s : List Glyph) : Except Fault (Char × List Glyph) := do
  let (n, rest) ← readCode s
  if isTrailing n then .error .malformed
  else if !isLeading n then .ok (Char.ofNat n, rest)
  else
    match rest with
    | [] => .error .ended
    | some '\\' :: [] => .error .ended
    | some '\\' :: some 'u' :: rest =>
      let (m, rest) ← readCode rest
      if isTrailing m then .ok (Char.ofNat ((n - 0xd800) * 0x400 + (m - 0xdc00) + 0x10000), rest)
      else .error .malformed
    | _ => .error .malformed

theorem length_of_readUnicode {s rest : List Glyph} {c : Char}
    (h : readUnicode s = .ok (c, rest)) : rest.length < s.length := by
  unfold readUnicode at h
  cases hc : readCode s with
  | error f => simp [hc, bind, Except.bind] at h
  | ok p =>
    obtain ⟨n, after⟩ := p
    have h₁ := length_of_readCode hc
    simp only [hc, bind, Except.bind] at h
    split at h
    · simp at h
    · split at h
      · simp only [Except.ok.injEq, Prod.mk.injEq] at h
        obtain ⟨_, rfl⟩ := h
        exact h₁
      · split at h
        · simp at h
        · simp at h
        · rename_i more
          cases hm : readCode more with
          | error f => simp [hm] at h
          | ok p =>
            obtain ⟨m, after⟩ := p
            have h₂ := length_of_readCode hm
            simp only [hm] at h
            split at h
            · simp only [Except.ok.injEq, Prod.mk.injEq] at h
              obtain ⟨_, rfl⟩ := h
              simp at h₁
              omega
            · simp at h
        · simp at h

/-- The content of a text after its opening quote, whose characters so far are given, the last
first. A byte that belongs to no character is a flaw that shows at the closing quote. -/
def readContent (flawed : Bool) (acc : List Char) (s : List Glyph) : Except Fault String :=
  match s with
  | [] => .error .ended
  | some '"' :: _ => if flawed then .error .malformed else .ok (String.ofList acc.reverse)
  | some '\\' :: [] => .error .ended
  | some '\\' :: some 'u' :: rest =>
    match h : readUnicode rest with
    | .error f => .error f
    | .ok (c, after) =>
      have := length_of_readUnicode h
      readContent flawed (c :: acc) after
  | some '\\' :: some e :: rest =>
    match simpleEscape? e with
    | some c => readContent flawed (c :: acc) rest
    | none => .error .malformed
  | some '\\' :: none :: _ => .error .malformed
  | some c :: rest =>
    if c.toNat < 0x20 then .error .malformed else readContent flawed (c :: acc) rest
  | none :: rest => readContent true acc rest
termination_by s.length
decreasing_by all_goals simp; try omega

/-- Passes over a text after its opening quote. -/
def skipContent (s : List Glyph) : Except Fault (List Glyph) :=
  match s with
  | [] => .error .ended
  | some '"' :: rest => .ok rest
  | some '\\' :: [] => .error .ended
  | some '\\' :: some 'u' :: rest =>
    match h : readCode rest with
    | .error f => .error f
    | .ok (_, after) =>
      have := length_of_readCode h
      skipContent after
  | some '\\' :: some e :: rest =>
    if (simpleEscape? e).isSome then skipContent rest else .error .malformed
  | some '\\' :: none :: _ => .error .malformed
  | some c :: rest => if c.toNat < 0x20 then .error .malformed else skipContent rest
  | none :: rest => skipContent rest
termination_by s.length
decreasing_by all_goals simp; try omega

/-- A text after its opening quote: its content, and what follows it. -/
def readText (s : List Glyph) : Except Fault String × Except Fault (List Glyph) :=
  (readContent false [] s, skipContent s)

/-! ## Values -/

/-- A value without parts, with a given fault when it is asked for and when it is passed over. -/
def ofScalar (s : List Glyph) (ignored : Fault → Fault) :
    Except Fault (Node × List Glyph) → Node × List Glyph
  | .ok result => result
  | .error f => (.flaw f (ignored f), s)

/-- A word as a value. -/
def readWord (node : Node) (word : String) (s : List Glyph) : Node × List Glyph :=
  ofScalar s id ((matchWord word.toList s).map fun rest => (node, rest))

/-- A number as a value; one that the text ends in the middle of is malformed when it is passed
over. -/
def readNumeral (negative : Bool) (s : List Glyph) : Node × List Glyph :=
  ofScalar s (fun _ => .malformed) ((readNumber negative s).map fun (n, rest) => (.number n, rest))

mutual

/-- Reads one value and gives back what follows it. What follows a flaw is of no use. -/
def readValue : Nat → List Glyph → Node × List Glyph
  | 0, s => (.flaw .malformed .malformed, s)
  | fuel + 1, s =>
    match skipSpace s with
    | [] => (.flaw .ended .ended, [])
    | some 'n' :: rest => readWord .null "ull" rest
    | some 't' :: rest => readWord (.bool true) "rue" rest
    | some 'f' :: rest => readWord (.bool false) "alse" rest
    | some '-' :: rest => readNumeral true rest
    | some '"' :: rest =>
      match readText rest with
      | (content, .ok rest) => (.text content, rest)
      | (.error f, .error f') => (.flaw f f', rest)
      | (.ok _, .error f) => (.flaw f f, rest)
    | some '[' :: rest =>
      match skipSpace rest with
      | some ']' :: rest => (.array [] none, rest)
      | [] => (.array [] (some .ended), [])
      | rest =>
        let (items, stop, rest) := readItems fuel rest
        (.array items stop, rest)
    | some '\x7b' :: rest =>
      match skipSpace rest with
      | some '\x7d' :: rest => (.object [] none, rest)
      | [] => (.object [] (some .ended), [])
      | some '"' :: rest =>
        let (members, stop, rest) := readMembers fuel rest
        (.object members stop, rest)
      | rest => (.oddObject (readValue fuel rest).1, rest)
    | g :: rest =>
      if (digitIn? 10 g).isSome then readNumeral false (g :: rest)
      else (.flaw .malformed .malformed, g :: rest)

/-- Reads the items of a sequence from its next one to its end. -/
def readItems : Nat → List Glyph → List Node × Option Fault × List Glyph
  | 0, s => ([], some .malformed, s)
  | fuel + 1, s =>
    let (item, rest) := readValue fuel s
    match item.stop with
    | some f => ([item], some f, rest)
    | none =>
      match skipSpace rest with
      | some ']' :: rest => ([item], none, rest)
      | some ',' :: rest =>
        let (items, stop, rest) := readItems fuel rest
        (item :: items, stop, rest)
      | rest => ([item], some (faultAt rest), rest)

/-- Reads the members of an object from its next one, after the quote that opens its name, to its
end. -/
def readMembers : Nat → List Glyph → List (Except Fault String × Node) × Option Fault × List Glyph
  | 0, s => ([], some .malformed, s)
  | fuel + 1, s =>
    let (name, after) := readText s
    match after with
    | .error f =>
      let f' := match name with
        | .error f => f
        | .ok _ => f
      ([(.error f', .flaw f' f)], some f, s)
    | .ok rest =>
      match skipSpace rest with
      | some ':' :: rest =>
        let (value, rest) := readValue fuel rest
        match value.stop with
        | some f => ([(name, value)], some f, rest)
        | none =>
          match skipSpace rest with
          | some '\x7d' :: rest => ([(name, value)], none, rest)
          | some ',' :: rest =>
            match skipSpace rest with
            | some '"' :: rest =>
              let (members, stop, rest) := readMembers fuel rest
              ((name, value) :: members, stop, rest)
            | rest =>
              let f := faultAt rest
              ([(name, value), (.error f, .flaw f f)], some f, rest)
          | rest => ([(name, value)], some (faultAt rest), rest)
      | rest =>
        let f := faultAt rest
        ([(name, .flaw f f)], some f, rest)

end

/-- Reads a whole text: the value, and whether only white space follows it. -/
def Node.read (s : List Glyph) : Node × Bool :=
  let (node, rest) := readValue (2 * s.length + 1) s
  (node, (skipSpace rest).isEmpty)

end ClaExemption.Json
