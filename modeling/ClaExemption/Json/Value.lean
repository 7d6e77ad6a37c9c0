/-!
# JSON values and their text

The values that the program writes: `Value.render` is their text, compact and on
one line, because every control character inside a text is escaped.
-/

namespace ClaExemption.Json

/-- A JSON value as the program writes it; all its numbers are integers. -/
inductive Value where
  | null
  | bool (b : Bool)
  | int (n : Int)
  | text (s : String)
  | array (items : List Value)
  | object (members : List (String × Value))
deriving Repr, Inhabited

/-- The members of an object that are present. -/
def Value.ofOptions (members : List (String × Option Value)) : Value :=
  .object (members.filterMap fun (name, value) => value.map fun value => (name, value))

/-- The code of a character in four hexadecimal digits, for the first 32 characters. -/
def controlEscape (c : Char) : List Char :=
  ['\\', 'u', '0', '0', Nat.digitChar (c.toNat / 16), Nat.digitChar (c.toNat % 16)]

/-- A character inside the quotes of a text. -/
def escapeChar (c : Char) : List Char :=
  if c = '"' then ['\\', '"']
  else if c = '\\' then ['\\', '\\']
  else if c = '\n' then ['\\', 'n']
  else if c = '\r' then ['\\', 'r']
  else if c = '\t' then ['\\', 't']
  else if c.toNat = 0x08 then ['\\', 'b']
  else if c.toNat = 0x0c then ['\\', 'f']
  else if c.toNat < 0x20 then controlEscape c
  else [c]

/-- A text in quotes. -/
def quote (s : String) : List Char :=
  '"' :: (s.toList.flatMap escapeChar ++ ['"'])

/-- An integer in decimal digits. -/
def intChars (n : Int) : List Char :=
  if n < 0 then '-' :: Nat.toDigits 10 n.natAbs else Nat.toDigits 10 n.natAbs

mutual

/-- The characters of a value. -/
def Value.chars : Value → List Char
  | .null => "null".toList
  | .bool true => "true".toList
  | .bool false => "false".toList
  | .int n => intChars n
  | .text s => quote s
  | .array [] => ['[', ']']
  | .array (item :: items) => '[' :: (item.chars ++ Value.charsOfItems items)
  | .object [] => ['\x7b', '\x7d']
  | .object ((name, value) :: members) =>
    '\x7b' :: (quote name ++ ':' :: (value.chars ++ Value.charsOfMembers members))

/-- The characters of the items after the first, and of the closing bracket. -/
def Value.charsOfItems : List Value → List Char
  | [] => [']']
  | item :: items => ',' :: (item.chars ++ Value.charsOfItems items)

/-- The characters of the members after the first, and of the closing brace. -/
def Value.charsOfMembers : List (String × Value) → List Char
  | [] => ['\x7d']
  | (name, value) :: members =>
    ',' :: (quote name ++ ':' :: (value.chars ++ Value.charsOfMembers members))

end

/-- The text of a value. -/
def Value.render (v : Value) : String := String.ofList v.chars

end ClaExemption.Json
