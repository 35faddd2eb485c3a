import Gatehouse.Json.Basic

/-!
# Writing JSON

The compact form: no blanks, members in order, and in texts only the quote, the backslash and the
control characters escaped, five of them by a letter and the others by four hexadecimal digits.
No line break survives inside the written form.
-/

namespace Gatehouse.Json

/-- A control character by its code, in four hexadecimal digits. -/
def escapeCode (c : Char) : List Char :=
  ['\\', 'u', '0', '0', Nat.digitChar (c.toNat / 16), Nat.digitChar (c.toNat % 16)]

/-- One character inside a written text. -/
def escapeChar (c : Char) : List Char :=
  if c = '"' then ['\\', '"']
  else if c = '\\' then ['\\', '\\']
  else if 0x20 ≤ c.toNat then [c]
  else if c.toNat = 8 then ['\\', 'b']
  else if c.toNat = 9 then ['\\', 't']
  else if c.toNat = 10 then ['\\', 'n']
  else if c.toNat = 12 then ['\\', 'f']
  else if c.toNat = 13 then ['\\', 'r']
  else escapeCode c

/-- A text between quotes. -/
def writeText (s : String) : List Char :=
  '"' :: s.toList.flatMap escapeChar ++ ['"']

/-- A whole number in base ten. -/
def writeInt (i : Int) : List Char :=
  if i < 0 then '-' :: Nat.toDigits 10 i.natAbs else Nat.toDigits 10 i.natAbs

/-- A number; one that is not finite has no JSON form and is written as null. -/
def writeNumber : Number → List Char
  | .int i => writeInt i
  | .float d => if d.isFinite then d.text.toList else ['n', 'u', 'l', 'l']

mutual

/-- The compact text of a value. -/
def write : Json → List Char
  | .null => ['n', 'u', 'l', 'l']
  | .bool true => ['t', 'r', 'u', 'e']
  | .bool false => ['f', 'a', 'l', 's', 'e']
  | .num n => writeNumber n
  | .str s => writeText s
  | .arr items => '[' :: writeItems items ++ [']']
  | .obj members => '\x7b' :: writeMembers members ++ ['\x7d']

/-- Items with a comma between two. -/
def writeItems : List Json → List Char
  | [] => []
  | [x] => write x
  | x :: y :: xs => write x ++ ',' :: writeItems (y :: xs)

/-- Members with a comma between two. -/
def writeMembers : List (String × Json) → List Char
  | [] => []
  | [(k, x)] => writeText k ++ ':' :: write x
  | (k, x) :: m :: ms => writeText k ++ ':' :: write x ++ ',' :: writeMembers (m :: ms)

end

/-- The compact text of a value. -/
def text (x : Json) : String :=
  String.ofList x.write

end Gatehouse.Json
