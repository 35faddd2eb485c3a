import Gatehouse.Text.Lowercase
import Gatehouse.Text.Table.Printable

/-!
# Quoted text

The quoted form in which messages show a text that came from outside: between double quotes, with
the usual short escapes, and with the code point of every character that has no printed form or
that would attach itself to the character before it.
-/

namespace Gatehouse.Text

/-- The digits of a number in base sixteen, lower case. -/
def hexDigits (n : Nat) : List Char :=
  Nat.toDigits 16 n

/-- Whether a character can be shown as it is. -/
def isPrintable (c : Char) : Bool :=
  let n := c.toNat
  if n < 128 then 0x20 ≤ n && n < 0x7F
  else !inRanges Table.unprintableRanges n && !inRanges Table.extendRanges n

/-- One character inside a quoted text. -/
def quoteChar (c : Char) : List Char :=
  match c with
  | '\x00' => ['\\', '0']
  | '\t' => ['\\', 't']
  | '\r' => ['\\', 'r']
  | '\n' => ['\\', 'n']
  | '"' => ['\\', '"']
  | '\\' => ['\\', '\\']
  | _ =>
    if isPrintable c then [c]
    else ['\\', 'u', '\x7b'] ++ hexDigits c.toNat ++ ['\x7d']

/-- A text between double quotes. -/
def quoted (s : String) : String :=
  String.ofList ('"' :: s.toList.flatMap quoteChar ++ ['"'])

/-- A list of texts, each quoted, between square brackets. -/
def quotedList (xs : List String) : String :=
  "[" ++ ", ".intercalate (xs.map quoted) ++ "]"

end Gatehouse.Text
