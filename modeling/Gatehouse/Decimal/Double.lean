/-!
# Double-precision numbers

A floating-point number as its 64 bits, so that equality is decidable and every fact about its
text is a fact about natural numbers. The magnitude of a finite number is
`mantissa * 2 ^ scale / 2 ^ 1074`.
-/

namespace Gatehouse

/-- A double-precision number, held as its bit pattern. -/
structure Double where
  bits : UInt64
  deriving DecidableEq, Inhabited

namespace Double

/-- The bits of a machine number. -/
def ofFloat (x : Float) : Double := ⟨x.toBits⟩

/-- The machine number with these bits. -/
def toFloat (d : Double) : Float := Float.ofBits d.bits

/-- Whether the sign bit is set; so it is for minus zero. -/
def isNegative (d : Double) : Bool := d.bits.toNat / 0x8000000000000000 == 1

/-- The eleven bits of the exponent. -/
def exponentField (d : Double) : Nat := d.bits.toNat / 0x10000000000000 % 0x800

/-- The fifty-two bits of the fraction. -/
def fraction (d : Double) : Nat := d.bits.toNat % 0x10000000000000

/-- Neither infinite nor "not a number". -/
def isFinite (d : Double) : Bool := d.exponentField != 2047

/-- The significant bits as a whole number. -/
def mantissa (d : Double) : Nat :=
  if d.exponentField = 0 then d.fraction else d.fraction + 0x10000000000000

/-- The power of two above the smallest positive number. -/
def scale (d : Double) : Nat := d.exponentField - 1

/-- Multiplies by a power of ten up to `10 ^ 308`. -/
def timesPowerOfTen (x : Float) (k : Nat) : Float := x * Float.ofScientific 1 false k

/-- Divides by a power of ten up to `10 ^ 308`. -/
def overPowerOfTen (x : Float) (k : Nat) : Float := x / Float.ofScientific 1 false k

/-- Divides by a power of ten of any size, `10 ^ 308` at a time. Four steps take every 64-bit
number to zero. -/
def overLargePowerOfTen : Nat → Float → Nat → Float
  | 0, x, _ => x
  | steps + 1, x, k =>
    if k ≤ 308 then overPowerOfTen x k
    else if x == 0.0 then x
    else overLargePowerOfTen steps (overPowerOfTen x 308) (k - 308)

/-- The number nearest to a whole number below `2 ^ 64`, times a power of ten with one more
rounding; none if that is too large. -/
def ofDecimal? (negative : Bool) (significand : UInt64) (exponent : Int) : Option Double :=
  let x := significand.toFloat
  let magnitude : Option Float :=
    if 0 ≤ exponent then
      let k := exponent.toNat
      if k ≤ 308 then
        let y := timesPowerOfTen x k
        if (ofFloat y).isFinite then some y else none
      else if x == 0.0 then some x else none
    else some (overLargePowerOfTen 8 x (-exponent).toNat)
  magnitude.map fun y => ofFloat (if negative then -y else y)

end Double

end Gatehouse
