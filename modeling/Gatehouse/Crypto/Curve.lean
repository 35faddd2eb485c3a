import Gatehouse.Crypto.Digest

/-!
# Signatures on elliptic curves

Curves with the equation `y² = x³ - 3x + b` over a prime field, and the signatures whose check adds a
multiple of the base point to a multiple of the signer's point.
-/

namespace Gatehouse.Crypto

/-- A curve with a base point of prime order. -/
structure Curve where
  prime : Nat
  b : Nat
  baseX : Nat
  baseY : Nat
  order : Nat
  digest : Digest

namespace Curve

/-- The curve of 256 bits. -/
def p256 : Curve where
  prime := Nat.pow 2 256 - Nat.pow 2 224 + Nat.pow 2 192 + Nat.pow 2 96 - 1
  b := 0x5ac635d8aa3a93e7b3ebbd55769886bc651d06b0cc53b0f63bce3c3e27d2604b
  baseX := 0x6b17d1f2e12c4247f8bce6e563a440f277037d812deb33a0f4a13945d898c296
  baseY := 0x4fe342e2fe1a7f9b8ee7eb4a7c0f9e162bce33576b315ececbb6406837bf51f5
  order := 0xffffffff00000000ffffffffffffffffbce6faada7179e84f3b9cac2fc632551
  digest := .sha256

/-- The curve of 384 bits. -/
def p384 : Curve where
  prime := Nat.pow 2 384 - Nat.pow 2 128 - Nat.pow 2 96 + Nat.pow 2 32 - 1
  b := 0xb3312fa7e23ee7e4988e056be3f82d19181d9c6efe8141120314088f5013875ac656398d8a2ed19d2a85c8edd3ec2aef
  baseX := 0xaa87ca22be8b05378eb1c71ef320ad746e1d3b628ba79b9859f741e082542a385502f25dbf55296c3a545e3872760ab7
  baseY := 0x3617de4a96262c6f5d9e98bf9292dc29f8f41dbd289a147ce9da3113b5f0b8c00a60b1ce1d7e819d7a431d7c90ea0e5f
  order := 0xffffffffffffffffffffffffffffffffffffffffffffffffc7634d81f4372ddf581a0db248b0a77aecec196accc52973
  digest := .sha384

/-- A point: two coordinates, or nothing for the point at infinity. -/
abbrev Point := Option (Nat × Nat)

/-- The base point. -/
def base (c : Curve) : Point := some (c.baseX, c.baseY)

/-- Whether coordinates satisfy the equation. -/
def contains (c : Curve) (x y : Nat) : Bool :=
  x < c.prime && y < c.prime && (y * y + 3 * x) % c.prime = (x * x * x + c.b) % c.prime

/-- The third point on a line of the given slope through a point, turned over. -/
def chord (c : Curve) (slope x y x' : Nat) : Point :=
  let x'' := subMod c.prime (slope * slope) (x + x')
  some (x'', subMod c.prime (slope * subMod c.prime x x'') y)

/-- The sum of two points. -/
def add (c : Curve) : Point → Point → Point
  | none, q => q
  | p, none => p
  | some (x, y), some (x', y') =>
    if x = x' then
      if y = y' ∧ y ≠ 0 then
        c.chord (subMod c.prime (3 * x * x) 3 * inverse c.prime (2 * y % c.prime)) x y x'
      else none
    else
      c.chord (subMod c.prime y' y * inverse c.prime (subMod c.prime x' x)) x y x'

/-- A multiple of a point, by repeated doubling. -/
def multiply (c : Curve) (n : Nat) (p : Point) : Point :=
  if h : n = 0 then none
  else
    let half := c.multiply (n / 2) (c.add p p)
    if n % 2 = 1 then c.add p half else half
termination_by n
decreasing_by omega

/-- How many bytes a coordinate takes. -/
def size (c : Curve) : Nat := byteLength c.prime

/-- The point with the given first coordinate and parity of the second. -/
def lift? (c : Curve) (odd : Nat) (x : Nat) : Option (Nat × Nat) :=
  let square := subMod c.prime (x * x * x + c.b) (3 * x)
  let y := powMod c.prime square ((c.prime + 1) / 4)
  let y := if y % 2 = odd then y else subMod c.prime 0 y
  if c.contains x y ∧ y % 2 = odd then some (x, y) else none

/-- Reads a point: a mark for its form, then both coordinates, or the first and a parity. -/
def readPoint? (c : Curve) : List UInt8 → Option (Nat × Nat)
  | 0x04 :: rest =>
    let x := number (rest.take c.size)
    let y := number (rest.drop c.size)
    if rest.length = 2 * c.size ∧ c.contains x y then some (x, y) else none
  | 0x02 :: rest => if rest.length = c.size then c.lift? 0 (number rest) else none
  | 0x03 :: rest => if rest.length = c.size then c.lift? 1 (number rest) else none
  | _ => none

/-- Whether a signature belongs to a message. It is two numbers from one up to the order; the first
must be the first coordinate of the sum that the second leads to. -/
def verify (c : Curve) (key : Nat × Nat) (message signature : List UInt8) : Bool :=
  let r := number (signature.take c.size)
  let s := number (signature.drop c.size)
  let z := number (c.digest.hash message)
  let w := inverse c.order s
  let sum := c.add (c.multiply (z * w % c.order) c.base) (c.multiply (r * w % c.order) (some key))
  signature.length = 2 * c.size && 0 < r && r < c.order && 0 < s && s < c.order &&
    (match sum with
      | some (x, _) => x % c.order = r
      | none => false)

end Curve

end Gatehouse.Crypto
