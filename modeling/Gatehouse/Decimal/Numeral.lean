import Gatehouse.Decimal.Double

/-!
# Numerals

Numbers as people write them in settings: whole numbers in a base up to sixteen, and decimal
fractions with an optional power of ten.
-/

namespace Gatehouse.Numeral

/-- The value of a digit in a base up to sixteen. -/
def digit? (base : Nat) (c : Char) : Option Nat :=
  let value :=
    if '0' ≤ c && c ≤ '9' then c.toNat - 48
    else if 'a' ≤ c && c ≤ 'f' then c.toNat - 87
    else if 'A' ≤ c && c ≤ 'F' then c.toNat - 55
    else base
  if value < base then some value else none

/-- The number that digits spell. -/
def value (base : Nat) (digits : List Char) : Nat :=
  digits.foldl (fun n c => n * base + (digit? base c).getD 0) 0

/-- The number spelled by a text that is all digits, and has one. -/
def natural? (base : Nat) (cs : List Char) : Option Nat :=
  if !cs.isEmpty && cs.all fun c => (digit? base c).isSome then some (value base cs) else none

/-- A sign and what follows it. Without a sign a number is not negative. -/
def signed : List Char → Bool × List Char
  | '-' :: cs => (true, cs)
  | '+' :: cs => (false, cs)
  | cs => (false, cs)

/-- The whole number in base ten that a text spells, with or without a sign. -/
def integer? (cs : List Char) : Option Int :=
  let (negative, digits) := signed cs
  (natural? 10 digits).map fun (n : Nat) => if negative then -(n : Int) else n

/-- Why a text is no whole number between two bounds. -/
inductive Fault where
  | empty
  | notDigits
  | tooLarge
  | tooSmall
  deriving DecidableEq

/-- What is said about a text that is no whole number between two bounds. -/
def Fault.message : Fault → String
  | empty => "cannot parse integer from empty string"
  | notDigits => "invalid digit found in string"
  | tooLarge => "number too large to fit in target type"
  | tooSmall => "number too small to fit in target type"

/-- Reads the digits after others that spell `n`. The first character that is no digit, or the digit
with which the number leaves its bounds, is at fault. -/
def readDigits (low high : Int) (negative : Bool) (n : Int) : List Char → Except Fault Int
  | [] => .ok n
  | c :: cs =>
    let digit : Int := c.toNat - 48
    let next := if negative then n * 10 - digit else n * 10 + digit
    if !c.isDigit then .error .notDigits
    else if high < next then .error .tooLarge
    else if next < low then .error .tooSmall
    else readDigits low high negative next cs

/-- Reads a whole number between two bounds. A minus sign may stand before it only if the bounds
leave room for negative numbers. -/
def read (low high : Int) (cs : List Char) : Except Fault Int :=
  match cs with
  | [] => .error .empty
  | [c] => if c = '+' || c = '-' then .error .notDigits else readDigits low high false 0 [c]
  | '+' :: ds => readDigits low high false 0 ds
  | '-' :: ds => readDigits low high (low < 0) 0 (if low < 0 then ds else cs)
  | ds => readDigits low high false 0 ds

/-- A decimal fraction: the digits without the point, and the power of ten by which to multiply. -/
structure Fraction where
  negative : Bool
  digits : List Char
  power : Int

/-- The power of ten after a fraction: none, or the letter `e` and a whole number. -/
def power? : List Char → Option Int
  | [] => some 0
  | e :: cs => if e = 'e' || e = 'E' then integer? cs else none

/-- The decimal fraction that a text spells. A digit must stand before or after the point. -/
def fraction? (cs : List Char) : Option Fraction := do
  let (negative, cs) := signed cs
  let whole := cs.takeWhile Char.isDigit
  let rest := cs.dropWhile Char.isDigit
  let (decimals, rest) := match rest with
    | '.' :: more => (more.takeWhile Char.isDigit, more.dropWhile Char.isDigit)
    | _ => ([], rest)
  let digits := whole ++ decimals
  if digits.isEmpty then none
  else some ⟨negative, digits, (← power? rest) - decimals.length⟩

/-- The double nearest to a fraction. A power of ten beyond all doubles counts as the first such
power. -/
def Fraction.toDouble (f : Fraction) : Double :=
  let n := value 10 f.digits
  let bound : Int := f.digits.length + 400
  let k := max (-bound) (min f.power bound)
  let x := Float.ofScientific n (k < 0) k.natAbs
  .ofFloat (if f.negative then -x else x)

end Gatehouse.Numeral
