import Gatehouse.Crypto.Modular

/-!
# Digests

The hash functions with 256, 384 and 512 bits. All follow one scheme on words of 32 or 64 bits. Their
constants are the leading bits of the fractional parts of roots of primes: cube roots for the
rounds, square roots for the words a digest starts from.
-/

namespace Gatehouse.Crypto

/-- The largest number whose power does not exceed the given one, found bit by bit. -/
def rootFrom (power n : Nat) : (bits : Nat) → Nat → Nat
  | 0, found => found
  | k + 1, found =>
    let next := found + Nat.pow 2 k
    rootFrom power n k (if Nat.pow next power ≤ n then next else found)

/-- The leading bits of the fractional part of a root of a prime below 512. -/
def rootFraction (power width prime : Nat) : BitVec width :=
  BitVec.ofNat width (rootFrom power (prime * Nat.pow 2 (power * width)) (width + 5) 0)

/-- The first primes, up to a bound. -/
def primesBelow (bound : Nat) : List Nat :=
  ((List.range bound).drop 2).filter fun n => ((List.range n).drop 2).all fun d => n % d ≠ 0

/-- Three rotations or shifts that are added bit by bit; the last is a shift if `shifts`. -/
structure Mixing where
  first : Nat
  second : Nat
  third : Nat
  shifts : Bool

/-- Applies a mixing to a word. -/
def Mixing.apply (m : Mixing) (x : BitVec w) : BitVec w :=
  x.rotateRight m.first ^^^ x.rotateRight m.second ^^^
    (if m.shifts then x >>> m.third else x.rotateRight m.third)

/-- A hash function of the family. -/
structure Digest where
  /-- The length of a word in bits. -/
  width : Nat
  /-- The words that a digest starts from. -/
  start : List (BitVec width)
  /-- One constant for each round. -/
  rounds : List (BitVec width)
  /-- How the schedule mixes words. -/
  early : Mixing
  late : Mixing
  /-- How a round mixes words. -/
  upper : Mixing
  lower : Mixing
  /-- How many bytes the digest has. -/
  size : Nat

namespace Digest

/-- The hash function with 256 bits, on words of 32. -/
def sha256 : Digest where
  width := 32
  start := ((primesBelow 512).take 8).map (rootFraction 2 32)
  rounds := ((primesBelow 512).take 64).map (rootFraction 3 32)
  early := ⟨7, 18, 3, true⟩
  late := ⟨17, 19, 10, true⟩
  upper := ⟨2, 13, 22, false⟩
  lower := ⟨6, 11, 25, false⟩
  size := 32

/-- The hash function with 512 bits, on words of 64. -/
def sha512 : Digest where
  width := 64
  start := ((primesBelow 512).take 8).map (rootFraction 2 64)
  rounds := ((primesBelow 512).take 80).map (rootFraction 3 64)
  early := ⟨1, 8, 7, true⟩
  late := ⟨19, 61, 6, true⟩
  upper := ⟨28, 34, 39, false⟩
  lower := ⟨14, 18, 41, false⟩
  size := 64

/-- The hash function with 384 bits: other words to start from, and a digest cut short. -/
def sha384 : Digest :=
  { sha512 with
    start := (((primesBelow 512).drop 8).take 8).map (rootFraction 2 64)
    size := 48 }

/-- How many bytes a block has: sixteen words. -/
def blockSize (d : Digest) : Nat := 2 * d.width

/-- A message with a one bit, zeros up to the end of a block, and its length in bits. -/
def pad (d : Digest) (message : List UInt8) : List UInt8 :=
  let tail := d.width / 4
  let used := message.length + 1 + tail
  message ++ 0x80 :: List.replicate ((d.blockSize - used % d.blockSize) % d.blockSize) 0 ++
    bytesOf tail (8 * message.length)

/-- The words that bytes spell. -/
def words (d : Digest) : (count : Nat) → List UInt8 → List (BitVec d.width)
  | 0, _ => []
  | k + 1, bytes =>
    BitVec.ofNat d.width (number (bytes.take (d.width / 8))) :: d.words k (bytes.drop (d.width / 8))

/-- The schedule of a block. The list holds its words so far, the latest first. -/
def schedule (d : Digest) : (more : Nat) → List (BitVec d.width) → List (BitVec d.width)
  | 0, latest => latest.reverse
  | k + 1, latest =>
    let at' (i : Nat) : BitVec d.width := latest.getD i 0
    d.schedule k ((d.late.apply (at' 1) + at' 6 + d.early.apply (at' 14) + at' 15) :: latest)

/-- One round on the eight working words. -/
def round (d : Digest) (v : List (BitVec d.width)) (constant word : BitVec d.width) :
    List (BitVec d.width) :=
  match v with
  | [a, b, c, d', e, f, g, h] =>
    let t := h + d.lower.apply e + ((e &&& f) ^^^ (~~~e &&& g)) + constant + word
    let u := d.upper.apply a + ((a &&& b) ^^^ (a &&& c) ^^^ (b &&& c))
    [t + u, a, b, c, d' + t, e, f, g]
  | v => v

/-- Takes a block into the state. -/
def absorb (d : Digest) (state : List (BitVec d.width)) (block : List UInt8) :
    List (BitVec d.width) :=
  let ws := d.schedule (d.rounds.length - 16) (d.words 16 block).reverse
  let worked := (d.rounds.zip ws).foldl (fun v (k, w) => d.round v k w) state
  List.zipWith (· + ·) state worked

/-- Takes all blocks of a padded message into the state. -/
def absorbAll (d : Digest) : (blocks : Nat) → List UInt8 → List (BitVec d.width) →
    List (BitVec d.width)
  | 0, _, state => state
  | k + 1, bytes, state =>
    d.absorbAll k (bytes.drop d.blockSize) (d.absorb state (bytes.take d.blockSize))

/-- The digest of a message. -/
def hash (d : Digest) (message : List UInt8) : List UInt8 :=
  let padded := d.pad message
  let state := d.absorbAll (padded.length / d.blockSize) padded d.start
  (state.flatMap fun w => bytesOf (d.width / 8) w.toNat).take d.size

end Digest

end Gatehouse.Crypto
