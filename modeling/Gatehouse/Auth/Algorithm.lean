import Gatehouse.Json.Decode

/-!
# Signature algorithms

The algorithms a token may name, and the kind of key each needs.
-/

namespace Gatehouse

/-- A hash function of the second secure family. -/
inductive HashName where
  | sha256
  | sha384
  | sha512
  deriving DecidableEq

/-- A signature algorithm. -/
inductive Algorithm where
  | hmac (h : HashName)
  | es256
  | es384
  | rsaPkcs1 (h : HashName)
  | rsaPss (h : HashName)
  | edDsa
  deriving DecidableEq

/-- The kinds of keys. -/
inductive KeyFamily where
  | rsa
  | ec
  | ed
  | symmetric
  deriving DecidableEq

namespace Algorithm

/-- All algorithms. -/
def all : List Algorithm :=
  [hmac .sha256, hmac .sha384, hmac .sha512, es256, es384, rsaPkcs1 .sha256, rsaPkcs1 .sha384,
    rsaPkcs1 .sha512, rsaPss .sha256, rsaPss .sha384, rsaPss .sha512, edDsa]

/-- The name in tokens and settings. -/
def name : Algorithm → String
  | hmac .sha256 => "HS256"
  | hmac .sha384 => "HS384"
  | hmac .sha512 => "HS512"
  | es256 => "ES256"
  | es384 => "ES384"
  | rsaPkcs1 .sha256 => "RS256"
  | rsaPkcs1 .sha384 => "RS384"
  | rsaPkcs1 .sha512 => "RS512"
  | rsaPss .sha256 => "PS256"
  | rsaPss .sha384 => "PS384"
  | rsaPss .sha512 => "PS512"
  | edDsa => "EdDSA"

/-- The kind of key an algorithm needs. -/
def family : Algorithm → KeyFamily
  | hmac _ => .symmetric
  | es256 | es384 => .ec
  | rsaPkcs1 _ | rsaPss _ => .rsa
  | edDsa => .ed

/-- The algorithms with their names. -/
def names : List (String × Algorithm) := all.map fun a => (a.name, a)

/-- Reads an algorithm. -/
def decode : Json.Decoder Algorithm := Json.choice names

end Algorithm

end Gatehouse
