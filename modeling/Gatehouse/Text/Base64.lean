/-!
# Base64

Bytes written with sixty-four digits, three bytes to four digits. A text is accepted only as it
would be written: the bits that a last, shorter group leaves over are zero, and the padding is there
exactly if the form asks for it.
-/

namespace Gatehouse.Text.Base64

/-- A written form: the two digits after the letters and the decimal digits, and whether a last
group is filled up with equals signs. -/
structure Form where
  digit62 : Char
  digit63 : Char
  padded : Bool

/-- The form that armoured keys use. -/
def armour : Form := ⟨'+', '/', true⟩

/-- The form that the parts of a token use. -/
def compact : Form := ⟨'-', '_', false⟩

/-- The value of a digit. -/
def Form.digit? (f : Form) (c : Char) : Option Nat :=
  if 'A' ≤ c ∧ c ≤ 'Z' then some (c.toNat - 'A'.toNat)
  else if 'a' ≤ c ∧ c ≤ 'z' then some (c.toNat - 'a'.toNat + 26)
  else if '0' ≤ c ∧ c ≤ '9' then some (c.toNat - '0'.toNat + 52)
  else if c = f.digit62 then some 62
  else if c = f.digit63 then some 63
  else none

/-- The bytes of a sequence of digits. A last group of two digits is one byte, one of three is two,
and a single digit is no group. -/
def join : List Nat → Option (List UInt8)
  | [] => some []
  | [_] => none
  | [a, b] => if b % 16 = 0 then some [(a * 4 + b / 16).toUInt8] else none
  | [a, b, c] =>
    if c % 4 = 0 then
      some [(a * 4 + b / 16).toUInt8, (b % 16 * 16 + c / 4).toUInt8]
    else none
  | a :: b :: c :: d :: rest =>
    (join rest).map fun bytes =>
      (a * 4 + b / 16).toUInt8 :: (b % 16 * 16 + c / 4).toUInt8 :: (c % 4 * 64 + d).toUInt8 :: bytes

/-- Takes the padding off, if there is just as much as a last group lacks. -/
def unpad? (cs : List Char) : Option (List Char) :=
  let body := cs.takeWhile (· ≠ '=')
  if cs = body ++ List.replicate ((4 - body.length % 4) % 4) '=' then some body else none

/-- The bytes that a text stands for. -/
def Form.decode? (f : Form) (cs : List Char) : Option (List UInt8) := do
  let body ← if f.padded then unpad? cs else some cs
  join (← body.mapM f.digit?)

end Gatehouse.Text.Base64
