import Gatehouse.Decimal.Numeral
import Gatehouse.Json.Basic

/-!
# Plain scalars

What a YAML scalar without quotes stands for: null, a truth value, a number, or else its own text.
-/

namespace Gatehouse.Yaml

/-- The spellings of null, but for the empty text. -/
def nullWords : List String := ["~", "null", "Null", "NULL"]

/-- The spellings of the truth values. -/
def truthWords : List (String × Bool) :=
  [("true", true), ("True", true), ("TRUE", true), ("false", false), ("False", false),
    ("FALSE", false)]

/-- The truth value with a given spelling. -/
def truth? (cs : List Char) : Option Bool :=
  (truthWords.find? fun w => w.1 == String.ofList cs).map Prod.snd

/-- Digits that begin with a zero and go on: an article number or the like, and no number. -/
def isPadded (cs : List Char) : Bool :=
  match (Numeral.signed cs).2 with
  | '0' :: d :: ds => (d :: ds).all Char.isDigit
  | _ => false

/-- The digits of a number after the letter that names its base, with the base. -/
def based : List Char → Nat × List Char
  | '0' :: 'x' :: ds => (16, ds)
  | '0' :: 'o' :: ds => (8, ds)
  | '0' :: 'b' :: ds => (2, ds)
  | ds => (10, ds)

/-- The whole number that a scalar spells. -/
def integer? (cs : List Char) : Option Int :=
  if isPadded cs then none
  else
    let (negative, unsigned) := Numeral.signed cs
    let (base, digits) := based unsigned
    (Numeral.natural? base digits).map fun (n : Nat) => if negative then -(n : Int) else n

/-- The infinite number or the "not a number" that a scalar spells. -/
def unbounded? (cs : List Char) : Option Double :=
  let infinity : Float := 1.0 / 0.0
  let word := String.ofList (Numeral.signed cs).2
  if [".inf", ".Inf", ".INF"].contains word then
    some (.ofFloat (if (Numeral.signed cs).1 then -infinity else infinity))
  else if [".nan", ".NaN", ".NAN"].contains (String.ofList cs) then some (.ofFloat (0.0 / 0.0))
  else none

/-- The double that a scalar spells, unless it is too large for one. -/
def double? (cs : List Char) : Option Double :=
  unbounded? cs <|>
    if isPadded cs then none
    else ((Numeral.fraction? cs).map Numeral.Fraction.toDouble).filter Double.isFinite

/-- A whole number as a value: exact if it fits 64 bits. -/
def wholeNumber (i : Int) : Json :=
  if Json.isExact i then .int i
  else .num (.float (Numeral.Fraction.toDouble ⟨i < 0, Nat.toDigits 10 i.natAbs, 0⟩))

/-- What a plain scalar stands for. -/
def resolve (cs : List Char) : Json :=
  if cs.isEmpty || nullWords.contains (String.ofList cs) then .null
  else match truth? cs, integer? cs, double? cs with
    | some b, _, _ => .bool b
    | none, some i, _ => wholeNumber i
    | none, none, some d => .num (.float d)
    | none, none, none => .str (String.ofList cs)

end Gatehouse.Yaml
