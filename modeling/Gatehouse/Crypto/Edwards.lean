import Gatehouse.Crypto.Digest

/-!
# Signatures on the twisted Edwards curve

The curve `y² - x² = 1 + d x² y²` over the field of `2 ^ 255 - 19` elements. Numbers and points are
written with the least significant byte first.
-/

namespace Gatehouse.Crypto.Edwards

/-- The size of the field. -/
def prime : Nat := Nat.pow 2 255 - 19

/-- The order of the base point. -/
def order : Nat := Nat.pow 2 252 + 27742317777372353535851937790883648493

/-- The constant of the equation. -/
def d : Nat := subMod prime 0 (121665 * inverse prime 121666)

/-- A point of the curve. -/
abbrev Point := Nat × Nat

/-- The sum of two points. One rule serves all pairs. -/
def add (p q : Point) : Point :=
  let (x, y) := p
  let (x', y') := q
  let t := d * (x * x' % prime) % prime * (y * y' % prime) % prime
  let inv := inverse prime ((1 + t) * subMod prime 1 t % prime)
  ((x * y' + y * x') % prime * (subMod prime 1 t * inv % prime) % prime,
    (y * y' + x * x') % prime * ((1 + t) * inv % prime) % prime)

/-- A multiple of a point, by repeated doubling. -/
def multiply (n : Nat) (p : Point) : Point :=
  if h : n = 0 then (0, 1)
  else
    let half := multiply (n / 2) (add p p)
    if n % 2 = 1 then add p half else half
termination_by n
decreasing_by omega

/-- The point with the given second coordinate and parity of the first. -/
def lift? (odd : Nat) (y : Nat) : Option Point :=
  let u := subMod prime (y * y) 1
  let v := (d * (y * y % prime) + 1) % prime
  let square := u * inverse prime v % prime
  let root := powMod prime square ((prime + 3) / 8)
  let root := if root * root % prime = square then root
    else root * powMod prime 2 ((prime - 1) / 4) % prime
  if root * root % prime = square then
    some (if root % 2 = odd then root else subMod prime 0 root, y % prime)
  else none

/-- The base point. -/
def base : Point := (lift? 0 (4 * inverse prime 5 % prime)).getD (0, 1)

/-- The number that bytes spell, the least significant first. -/
def littleNumber (bytes : List UInt8) : Nat := number bytes.reverse

/-- Reads a point: the second coordinate, with the parity of the first in the highest bit. -/
def readPoint? (bytes : List UInt8) : Option Point :=
  let n := littleNumber bytes
  if bytes.length = 32 then lift? (n / Nat.pow 2 255) (n % Nat.pow 2 255) else none

/-- The written form of a point. -/
def writePoint (p : Point) : List UInt8 := (bytesOf 32 (p.2 + p.1 % 2 * Nat.pow 2 255)).reverse

/-- Whether a signature belongs to a message: the written form of a point, and a number below the
order that leads to this point. -/
def verify (key message signature : List UInt8) : Bool :=
  let s := littleNumber (signature.drop 32)
  match readPoint? key with
  | some (x, y) =>
    let k := littleNumber (Digest.sha512.hash (signature.take 32 ++ key ++ message)) % order
    signature.length = 64 && s < order &&
      writePoint (add (multiply s base) (multiply k (subMod prime 0 x, y))) = signature.take 32
  | none => false

end Gatehouse.Crypto.Edwards
