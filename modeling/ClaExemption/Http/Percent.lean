import ClaExemption.Text.Utf8

/-!
# Escapes in paths

In a path a percent sign and two hexadecimal digits stand for a byte. A percent
sign without them stands for itself.
-/

namespace ClaExemption.Http.Percent

/-- The value of a byte that is a hexadecimal digit. -/
def hexValue? (b : UInt8) : Option UInt8 :=
  if 0x30 ≤ b && b ≤ 0x39 then some (b - 0x30)
  else if 0x41 ≤ b && b ≤ 0x46 then some (b - 0x41 + 10)
  else if 0x61 ≤ b && b ≤ 0x66 then some (b - 0x61 + 10)
  else none

/-- The byte of the percent sign. -/
def mark : UInt8 := 0x25

/-- The bytes that escapes and other bytes stand for. -/
def decodeBytes : List UInt8 → List UInt8
  | b :: high :: low :: rest =>
    match if b = mark then hexValue? high else none, hexValue? low with
    | some high, some low => (high * 16 + low) :: decodeBytes rest
    | _, _ => b :: decodeBytes (high :: low :: rest)
  | bytes => bytes

/-- The text of a piece of a path, unless its bytes are not UTF-8. -/
def decode (s : String) : Except Text.Utf8.Flaw String :=
  (Text.Utf8.decode (decodeBytes (Text.Utf8.encode s))).map String.ofList

end ClaExemption.Http.Percent
