import Gatehouse.Decimal.Numeral
import Gatehouse.Text.Blank

/-!
# Universally unique identifiers

128 bits, ordered as a number and written as thirty-two hexadecimal digits in five groups. Besides
the written form three others are read: without hyphens, in braces, and after `urn:uuid:`.
-/

namespace Gatehouse

/-- A universally unique identifier. -/
structure Uuid where
  bits : BitVec 128
  deriving DecidableEq, Inhabited

namespace Uuid

/-- The identifier of which all bits are zero. -/
def nil : Uuid := ⟨0⟩

/-- Whether this is the identifier of which all bits are zero. -/
def isNil (u : Uuid) : Bool := u = nil

/-- The order of identifiers is the order of their bits read as a number. -/
instance : Ord Uuid := ⟨fun a b => compare a.bits.toNat b.bits.toNat⟩

/-- The identifier with a given number. -/
def ofNat (n : Nat) : Uuid := ⟨BitVec.ofNat 128 n⟩

/-- The lowest `n` hexadecimal digits of a number, highest first. -/
def hexDigits : Nat → Nat → List Char
  | 0, _ => []
  | n + 1, x => hexDigits n (x / 16) ++ [Nat.digitChar (x % 16)]

/-- The lengths of the groups of digits in the written form. -/
def groups : List Nat := [8, 4, 4, 4, 12]

/-- Digits in groups of the given lengths with a hyphen between two. -/
def hyphenate : List Nat → List Char → List Char
  | [], cs => cs
  | [n], cs => cs.take n
  | n :: m :: ns, cs => cs.take n ++ '-' :: hyphenate (m :: ns) (cs.drop n)

/-- The digits of a text in groups of exactly the given lengths. -/
def unhyphenate? : List Nat → List Char → Option (List Char)
  | [], cs => if cs.isEmpty then some [] else none
  | [n], cs => if cs.length = n then some cs else none
  | n :: m :: ns, cs =>
    match cs.drop n with
    | '-' :: rest =>
      if (cs.take n).length = n then (unhyphenate? (m :: ns) rest).map (cs.take n ++ ·) else none
    | _ => none

/-- The written form. -/
def chars (u : Uuid) : List Char := hyphenate groups (hexDigits 32 u.bits.toNat)

/-- The written form. -/
def text (u : Uuid) : String := String.ofList u.chars

/-- The identifier spelled by thirty-two hexadecimal digits of either case. -/
def ofDigits? (cs : List Char) : Option Uuid :=
  if cs.length = 32 then (Numeral.natural? 16 cs).map ofNat else none

/-- The identifier spelled by digits in hyphenated groups. -/
def ofHyphenated? (cs : List Char) : Option Uuid :=
  (unhyphenate? groups cs).bind ofDigits?

/-- The nine characters that may stand before the written form, in either case. -/
def urnLead : List Char := ['u', 'r', 'n', ':', 'u', 'u', 'i', 'd', ':']

/-- Reads an identifier in any of the four forms. -/
def ofChars? (cs : List Char) : Option Uuid :=
  match cs.length with
  | 32 => ofDigits? cs
  | 36 => ofHyphenated? cs
  | 38 =>
    if cs.head? = some '\x7b' ∧ cs.getLast? = some '\x7d' then
      ofHyphenated? (cs.drop 1).dropLast
    else none
  | 45 =>
    if Text.sameIgnoringCase (cs.take 9) urnLead then ofHyphenated? (cs.drop 9) else none
  | _ => none

/-- Reads an identifier in any of the four forms. -/
def parse? (s : String) : Option Uuid := ofChars? s.toList

end Uuid

end Gatehouse
