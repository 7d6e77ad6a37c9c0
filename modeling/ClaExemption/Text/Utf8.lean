/-!
# UTF-8

`Utf8.decode` reads the characters of a list of bytes, and says of bytes that
are not UTF-8 where the first flaw lies and how far it reaches.
-/

namespace ClaExemption.Text.Utf8

/-- The first flaw of a list of bytes. -/
inductive Flaw where
  /-- A sequence of so many bytes, starting at this index, can be no character. -/
  | invalid (length index : Nat)
  /-- The bytes end inside the character that starts at this index. -/
  | incomplete (index : Nat)
deriving DecidableEq, Repr

/-- The description of a flaw. -/
def Flaw.message : Flaw → String
  | .invalid length index => s!"invalid utf-8 sequence of {length} bytes from index {index}"
  | .incomplete index => s!"incomplete utf-8 byte sequence from index {index}"

/-- Whether a byte continues a character. -/
def isContinuation (b : UInt8) : Bool := 0x80 ≤ b && b ≤ 0xbf

/-- The six bits that a continuing byte adds. -/
def low (b : UInt8) : Nat := b.toNat % 64

/-- How many bytes the character with a given first byte takes; zero for a byte that starts none. -/
def width (b : UInt8) : Nat :=
  if b ≤ 0x7f then 1
  else if 0xc2 ≤ b && b ≤ 0xdf then 2
  else if 0xe0 ≤ b && b ≤ 0xef then 3
  else if 0xf0 ≤ b && b ≤ 0xf4 then 4
  else 0

/-- Whether a second byte may follow a first one: long forms, surrogates and code points beyond the
last are excluded here. -/
def isSecond (first second : UInt8) : Bool :=
  isContinuation second
    && (first != 0xe0 || 0xa0 ≤ second) && (first != 0xed || second ≤ 0x9f)
    && (first != 0xf0 || 0x90 ≤ second) && (first != 0xf4 || second ≤ 0x8f)

/-- Reads one character, whose first byte lies at the given index; the bytes after it come back
with it. -/
def step (index : Nat) (b : UInt8) (rest : List UInt8) : Except Flaw (Char × List UInt8) :=
  match width b, rest with
  | 0, _ => .error (.invalid 1 index)
  | 1, _ => .ok (Char.ofNat b.toNat, rest)
  | _, [] => .error (.incomplete index)
  | w, b₂ :: rest =>
    if !isSecond b b₂ then .error (.invalid 1 index)
    else if w = 2 then .ok (Char.ofNat ((b.toNat - 0xc0) * 64 + low b₂), rest)
    else
      match rest with
      | [] => .error (.incomplete index)
      | b₃ :: rest =>
        if !isContinuation b₃ then .error (.invalid 2 index)
        else if w = 3 then
          .ok (Char.ofNat ((b.toNat - 0xe0) * 64 * 64 + low b₂ * 64 + low b₃), rest)
        else
          match rest with
          | [] => .error (.incomplete index)
          | b₄ :: rest =>
            if !isContinuation b₄ then .error (.invalid 3 index)
            else
              .ok (Char.ofNat ((b.toNat - 0xf0) * 64 * 64 * 64 + low b₂ * 64 * 64 + low b₃ * 64
                + low b₄), rest)

theorem length_of_step {index : Nat} {b : UInt8} {rest after : List UInt8} {c : Char}
    (h : step index b rest = .ok (c, after)) : after.length ≤ rest.length := by
  unfold step at h
  repeat' split at h
  all_goals first
    | (simp only [Except.ok.injEq, Prod.mk.injEq] at h; obtain ⟨_, rfl⟩ := h; simp <;> omega)
    | simp at h

/-- The characters that the bytes from a given index on write down, after those already read, the
last first. -/
def decodeFrom (index : Nat) (acc : List Char) (bytes : List UInt8) : Except Flaw (List Char) :=
  match bytes with
  | [] => .ok acc.reverse
  | b :: rest =>
    match h : step index b rest with
    | .ok (c, after) =>
      have := length_of_step h
      decodeFrom (index + c.utf8Size) (c :: acc) after
    | .error flaw => .error flaw
termination_by bytes.length
decreasing_by simp; omega

/-- The characters that a list of bytes writes down. -/
def decode (bytes : List UInt8) : Except Flaw (List Char) :=
  decodeFrom 0 [] bytes

/-- The character that stands for bytes that are none. -/
def replacement : Char := Char.ofNat 0xfffd

/-- The characters of a list of bytes, with a mark in place of each flaw. -/
def decodeLossy (bytes : List UInt8) : List Char :=
  match bytes with
  | [] => []
  | b :: rest =>
    match h : step 0 b rest with
    | .ok (c, after) =>
      have := length_of_step h
      c :: decodeLossy after
    | .error (.invalid length _) => replacement :: decodeLossy (rest.drop (length - 1))
    | .error (.incomplete _) => [replacement]
termination_by bytes.length
decreasing_by all_goals simp; try omega

/-- The bytes of a text. -/
def encode (s : String) : List UInt8 :=
  s.toUTF8.toList

end ClaExemption.Text.Utf8
