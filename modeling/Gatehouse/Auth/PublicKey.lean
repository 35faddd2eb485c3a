import Gatehouse.Auth.Algorithm
import Gatehouse.Crypto.Armour
import Gatehouse.Crypto.Curve
import Gatehouse.Crypto.Der
import Gatehouse.Crypto.Edwards
import Gatehouse.Crypto.Rsa

/-!
# Public keys

Reading the key of a family from its armour, and checking signatures with it. Reading looks only at
the frame of a key; a key whose content is no key of its family verifies nothing.
-/

namespace Gatehouse

open Crypto

/-- A public key: its family and its content, which only a check of a signature looks into. -/
structure PublicKey where
  family : KeyFamily
  content : List UInt8

namespace PublicKey

/-- The family that the name of a kind of key belongs to. -/
def familyOf? (arcs : List Nat) : Option KeyFamily :=
  if arcs = [1, 2, 840, 10045, 2, 1] then some .ec
  else if arcs = [1, 2, 840, 113549, 1, 1, 1] then some .rsa
  else if arcs = [1, 3, 101, 112] then some .ed
  else none

/-- The key of a family under an armour. RSA keys have a label of their own, under which the content
is the key; the general labels cover a record that names its family. For the families on curves a
private key does not serve as a public one. -/
def ofArmoured? (family : KeyFamily) (a : Armoured) : Option PublicKey := do
  let items ← Der.read? a.content
  if a.label = "RSA PUBLIC KEY" ∨ a.label = "RSA PRIVATE KEY" then
    if family = .rsa then some ⟨family, a.content⟩ else none
  else if a.label = "PUBLIC KEY" ∨ a.label = "PRIVATE KEY" ∨ a.label = "CERTIFICATE" then
    let named ← Der.firstName? familyOf? items
    if named = family ∧ (family = .rsa ∨ a.label ≠ "PRIVATE KEY") then
      return ⟨family, ← Der.firstBytes? items⟩
    else none
  else none

/-- The key of a family in a text. -/
def read? (family : KeyFamily) (text : List UInt8) : Option PublicKey :=
  (Armoured.find? text).bind (ofArmoured? family)

/-- The numbers of an RSA key. -/
def rsa? (k : PublicKey) : Option RsaKey := do
  let (n, e) ← Der.twoNumbers? k.content
  let key : RsaKey := ⟨n, e⟩
  if key.isUsable then some key else none

/-- The digest of a hash function. -/
def digestOf : HashName → Digest
  | .sha256 => .sha256
  | .sha384 => .sha384
  | .sha512 => .sha512

/-- Whether a signature under an algorithm belongs to a message. An algorithm of another family than
the key's accepts nothing, and neither does a symmetric one. -/
def verifies (k : PublicKey) (a : Algorithm) (message signature : List UInt8) : Bool :=
  let onCurve (c : Curve) : Bool := (c.readPoint? k.content).any (c.verify · message signature)
  k.family = a.family &&
    match a with
    | .hmac _ => false
    | .rsaPkcs1 h => k.rsa?.any (·.verifyFixed (digestOf h) message signature)
    | .rsaPss h => k.rsa?.any (·.verifySalted (digestOf h) message signature)
    | .es256 => onCurve .p256
    | .es384 => onCurve .p384
    | .edDsa => Edwards.verify k.content message signature

end PublicKey

end Gatehouse
