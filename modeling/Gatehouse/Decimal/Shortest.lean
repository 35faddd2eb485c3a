import Gatehouse.Decimal.Double

/-!
# The shortest decimal text of a number

Of all decimals that read back as the given double, the one with the fewest digits, and of those
the nearest. The search runs over the decimal grids with one to seventeen digits, in whole numbers:
everything is scaled by `10 ^ 400 * 2 ^ 1076`, which makes the number, the ends of the interval of
reals that round to it, and every grid point a natural number.
-/

namespace Gatehouse.Double

/-- The number times `10 ^ 400 * 2 ^ 1076`, given four times its mantissa or a neighbour of that. -/
def scaled (d : Double) (quarters : Nat) : Nat := quarters * Nat.pow 2 d.scale * Nat.pow 10 400

/-- One unit of the grid with spacing `10 ^ (k - 400)`, on the same scale. -/
def gridUnit (k : Nat) : Nat := Nat.pow 10 k * Nat.pow 2 1076

/-- Whether a point reads back as the number: the interval reaches half way to each neighbour, and
its ends belong to it when the mantissa is even. -/
def readsBack (d : Double) (point : Nat) : Bool :=
  let below := if d.mantissa = 0x10000000000000 ∧ 0 < d.scale then 1 else 2
  let low := d.scaled (4 * d.mantissa - below)
  let high := d.scaled (4 * d.mantissa + 2)
  if d.mantissa % 2 = 0 then low ≤ point && point ≤ high else low < point && point < high

/-- Digits before the decimal point, plus 400; less than 400 for a number below one tenth. -/
def magnitude (d : Double) : Nat :=
  (Nat.toDigits 10 (d.scaled (4 * d.mantissa) / Nat.pow 2 1076)).length

/-- The multiple of a grid that reads back, if one does; of two, the nearer, and on a tie the even
one. -/
def onGrid? (d : Double) (k : Nat) : Option Nat :=
  let value := d.scaled (4 * d.mantissa)
  let unit := gridUnit k
  let lower := value / unit
  let upper := lower + 1
  match d.readsBack (lower * unit), d.readsBack (upper * unit) with
  | true, true =>
    let toLower := value - lower * unit
    let toUpper := upper * unit - value
    if toLower < toUpper then some lower
    else if toUpper < toLower then some upper
    else if lower % 2 = 0 then some lower else some upper
  | true, false => some lower
  | false, true => some upper
  | false, false => none

/-- A whole number without its trailing zeros, and how many there were. -/
def stripZeros : Nat → Nat → Nat → Nat × Nat
  | 0, n, k => (n, k)
  | fuel + 1, n, k => if n ≠ 0 ∧ n % 10 = 0 then stripZeros fuel (n / 10) (k + 1) else (n, k)

/-- The digits of the shortest decimal, as a whole number, and its power of ten plus 400. -/
def shortest (d : Double) : Nat × Nat :=
  let found := (List.range 17).findSome? fun i =>
    let k := d.magnitude - (i + 1)
    (d.onGrid? k).map fun n => (n, k)
  let (n, k) := found.getD (0, 400)
  stripZeros 20 n k

/-- How numbers are written: positionally while the point stands at most four places before the
first digit or sixteen after it, otherwise with a signed power of ten; a whole number keeps `.0`. -/
def positionalText (digits : List Char) (point : Int) : List Char :=
  let n : Int := digits.length
  if n ≤ point then
    digits ++ List.replicate (point - n).toNat '0' ++ ['.', '0']
  else if 0 < point then
    digits.take point.toNat ++ '.' :: digits.drop point.toNat
  else ['0', '.'] ++ List.replicate (-point).toNat '0' ++ digits

/-- One digit, the rest after a point, and the power of ten with its sign. -/
def scientificText (digits : List Char) (power : Int) : List Char :=
  let lead := match digits with
    | [] => []
    | [d] => [d]
    | d :: rest => d :: '.' :: rest
  lead ++ 'e' :: (if power < 0 then '-' else '+') :: Nat.toDigits 10 power.natAbs

/-- The text of a finite number. -/
def text (d : Double) : String :=
  let sign := if d.isNegative then ['-'] else []
  if d.mantissa = 0 then String.ofList (sign ++ ['0', '.', '0'])
  else
    let (n, k) := d.shortest
    let digits := Nat.toDigits 10 n
    let point : Int := digits.length + k - 400
    String.ofList (sign ++
      if -5 < point ∧ point ≤ 16 then positionalText digits point
      else scientificText digits (point - 1))

end Gatehouse.Double
