import Gatehouse.Crypto.Modular

/-!
# Tagged binary records

Reading the nested, tagged records that keys are kept in. Only what keys need is told apart.
-/

namespace Gatehouse.Crypto

/-- An item of a tagged binary text. -/
inductive Der where
  | integer (body : List UInt8)
  | bits (body : List UInt8)
  | octets (body : List UInt8)
  | name (arcs : List Nat)
  | sequence (items : List Der)
  | other

namespace Der

/-- Reads a number of seven-bit digits, of which all but the last have the highest bit set. -/
def digits? (acc : Nat) : List UInt8 → Option (Nat × List UInt8)
  | [] => none
  | b :: rest =>
    if b < 0x80 then some (acc * 128 + b.toNat, rest)
    else digits? (acc * 128 + (b.toNat - 0x80)) rest

/-- The arcs after the first two. -/
def arcs? : (fuel : Nat) → List UInt8 → Option (List Nat)
  | _, [] => some []
  | 0, _ => none
  | fuel + 1, bytes => do
    let (n, rest) ← digits? 0 bytes
    return n :: (← arcs? fuel rest)

/-- Reads the name of a kind of thing. Its first byte holds two arcs. -/
def name? : List UInt8 → Option (List Nat)
  | [] => none
  | b :: rest => do
    let lead := min (b.toNat / 40) 2
    return lead :: (b.toNat - 40 * lead) :: (← arcs? rest.length rest)

/-- Reads a length: a small one in one byte, a larger one in as many bytes as the first says, at
most eight. -/
def length? : List UInt8 → Option (Nat × List UInt8)
  | [] => none
  | b :: rest =>
    let count := b.toNat - 0x80
    if b < 0x80 then some (b.toNat, rest)
    else if count ≤ 8 ∧ count ≤ rest.length then
      some (number (rest.take count), rest.drop count)
    else none

/-- What the head of an item says: whether its kind is one of the general ones, the number of the
kind, the length of the body; and what follows. -/
def head? : List UInt8 → Option (Bool × Nat × Nat × List UInt8)
  | [] => none
  | b :: rest => do
    let small := b.toNat % 32
    let (tag, rest) ← if small = 31 then digits? 0 rest else some (small, rest)
    let (length, rest) ← length? rest
    if length ≤ rest.length then some (b < 0x40, tag, length, rest) else none

/-- Reads all items of a text. An empty text holds none, which is an error. -/
def readWith : (fuel : Nat) → List UInt8 → Option (List Der)
  | 0, _ => none
  | fuel + 1, bytes => do
    let (general, tag, length, rest) ← head? bytes
    let body := rest.take length
    let item ← if general then
        match tag with
        | 1 => if length = 1 then some other else none
        | 2 => some (integer body)
        | 3 => if 8 * (length - 1) < (body.headD 0).toNat then none else some (bits body.tail)
        | 4 => some (octets body)
        | 6 => (name? body).map name
        | 16 => (readWith fuel body).map sequence
        | 17 => (readWith fuel body).map fun _ => other
        | _ => some other
      else some other
    let after := rest.drop length
    if after.isEmpty then some [item] else return item :: (← readWith fuel after)

/-- Reads all items of a text. -/
def read? (bytes : List UInt8) : Option (List Der) := readWith (bytes.length + 1) bytes

/-- The written form of a length. -/
def writeLength (n : Nat) : List UInt8 :=
  if n < 128 then [n.toUInt8] else (0x80 + byteLength n).toUInt8 :: bytesOf (byteLength n) n

/-- The written form of a number: the fewest bytes of which the highest bit is clear. -/
def writeInteger (n : Nat) : List UInt8 :=
  let length := bitLength n / 8 + 1
  0x02 :: writeLength length ++ bytesOf length n

/-- The written form of a record, given that of its items. -/
def writeSequence (body : List UInt8) : List UInt8 :=
  0x30 :: writeLength body.length ++ body

/-- Reads a record of two numbers, just as it would be written. -/
def twoNumbers? (bytes : List UInt8) : Option (Nat × Nat) :=
  match read? bytes with
  | some [sequence [integer a, integer b]] =>
    let n := number a
    let m := number b
    if bytes = writeSequence (writeInteger n ++ writeInteger m) then some (n, m) else none
  | _ => none

mutual

/-- The first name among some, in the order of writing, in records within records. -/
def firstName? (wanted : List Nat → Option α) : List Der → Option α
  | [] => none
  | item :: rest => item.ownName? wanted <|> firstName? wanted rest

/-- The first name among some in one item. -/
def ownName? (wanted : List Nat → Option α) : Der → Option α
  | name arcs => wanted arcs
  | sequence items => firstName? wanted items
  | _ => none

end

mutual

/-- The first text of bits or bytes, in the order of writing, in records within records. -/
def firstBytes? : List Der → Option (List UInt8)
  | [] => none
  | item :: rest => item.ownBytes? <|> firstBytes? rest

/-- The first text of bits or bytes in one item. -/
def ownBytes? : Der → Option (List UInt8)
  | bits body => some body
  | octets body => some body
  | sequence items => firstBytes? items
  | _ => none

end

end Der

end Gatehouse.Crypto
