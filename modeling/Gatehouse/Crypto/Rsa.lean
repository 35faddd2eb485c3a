import Gatehouse.Crypto.Digest

/-!
# RSA signatures

A signature is a number below the modulus whose power must be the encoding of the message's digest.
There are two encodings: one fixed by the digest, and one that also holds a random salt.
-/

namespace Gatehouse.Crypto

/-- A public key. -/
structure RsaKey where
  modulus : Nat
  exponent : Nat

namespace RsaKey

/-- Whether a key may be used: both numbers odd, the exponent of at most 33 bits and below the
modulus, the modulus of at most 4096 bits. -/
def isUsable (k : RsaKey) : Bool :=
  k.modulus % 2 = 1 && k.exponent % 2 = 1 && 2 ≤ k.exponent && k.exponent < 0x200000000 &&
    k.exponent < k.modulus && bitLength k.modulus ≤ 4096

/-- The number that a signature encloses. It must be as long as the modulus and less than it. -/
def openNumber? (k : RsaKey) (signature : List UInt8) : Option Nat :=
  let s := number signature
  if signature.length = byteLength k.modulus ∧ s < k.modulus then
    some (powMod k.modulus s k.exponent)
  else none

/-- What stands before a digest in the fixed encoding: its kind and its length, as a record. -/
def digestHeader (d : Digest) : List UInt8 :=
  let kind : UInt8 := if d.size = 32 then 1 else if d.size = 48 then 2 else 3
  [0x30, 0x11 + d.size.toUInt8, 0x30, 0x0D, 0x06, 0x09, 0x60, 0x86, 0x48, 0x01, 0x65, 0x03, 0x04,
    0x02, kind, 0x05, 0x00, 0x04, d.size.toUInt8]

/-- The fixed encoding: a filling of ones between two marks, then the digest with its header. -/
def fixedEncoding (d : Digest) (length : Nat) (message : List UInt8) : List UInt8 :=
  let tail := digestHeader d ++ d.hash message
  [0, 1] ++ List.replicate (length - tail.length - 3) 0xFF ++ 0 :: tail

/-- Whether a signature with the fixed encoding belongs to a message. -/
def verifyFixed (k : RsaKey) (d : Digest) (message signature : List UInt8) : Bool :=
  let length := byteLength k.modulus
  match k.openNumber? signature with
  | some n =>
    (digestHeader d).length + d.size + 11 ≤ length &&
      bytesOf length n = fixedEncoding d length message
  | none => false

/-- A mask of the given length that depends on a seed. -/
def mask (d : Digest) (seed : List UInt8) (length : Nat) : List UInt8 :=
  ((List.range (length / d.size + 1)).flatMap fun i => d.hash (seed ++ bytesOf 4 i)).take length

/-- Whether an encoded text of the given number of bits holds the salted digest of a message. The
salt is as long as the digest. -/
def isSalted (d : Digest) (bits : Nat) (message encoded : List UInt8) : Bool :=
  let length := (bits + 7) / 8
  let masked := encoded.take (length - d.size - 1)
  let sealing := (encoded.drop (length - d.size - 1)).take d.size
  let spare := 8 * length - bits
  let block := List.zipWith (· ^^^ ·) masked (mask d sealing masked.length)
  let block := block.modifyHead fun b => (b.toNat % Nat.pow 2 (8 - spare)).toUInt8
  let filling := length - 2 * d.size - 2
  let salt := block.drop (filling + 1)
  2 * d.size + 2 ≤ length && encoded.getLast? = some 0xBC &&
    (masked.headD 0).toNat < Nat.pow 2 (8 - spare) &&
    block.take (filling + 1) = List.replicate filling 0 ++ [1] &&
    d.hash (List.replicate 8 0 ++ d.hash message ++ salt) = sealing

/-- Whether a signature with the salted encoding belongs to a message. -/
def verifySalted (k : RsaKey) (d : Digest) (message signature : List UInt8) : Bool :=
  let bits := bitLength k.modulus - 1
  match k.openNumber? signature with
  | some n => n < Nat.pow 2 (8 * ((bits + 7) / 8)) && isSalted d bits message (bytesOf ((bits + 7) / 8) n)
  | none => false

end RsaKey

end Gatehouse.Crypto
