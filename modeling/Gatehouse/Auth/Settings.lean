import Gatehouse.Auth.Algorithm
import Gatehouse.Auth.ClaimCheck

/-!
# Settings of token verification

Where the public key comes from, which algorithms are accepted, and what is demanded of claims.
-/

namespace Gatehouse

/-- Settings of token verification. -/
structure AuthSettings where
  keyPem : Option String
  keyPath : Option String
  algorithms : List Algorithm
  audience : String
  leeway : Int64
  requireExpiry : Bool
  deriving DecidableEq

namespace AuthSettings

/-- The settings that hold unless configured otherwise; they name no key. -/
def standard : AuthSettings :=
  ⟨none, none, [.rsaPkcs1 .sha256, .rsaPkcs1 .sha384, .rsaPkcs1 .sha512], "access", 60, false⟩

/-- The written form; a key source that is not set is left out. -/
def toJson (s : AuthSettings) : Json :=
  .obj (Claims.member "public_key_pem" .str s.keyPem ++
    Claims.member "public_key_path" .str s.keyPath ++
    [("algorithms", .arr (s.algorithms.map fun a => .str a.name)),
      ("audience", .str s.audience), ("leeway_seconds", Claims.secondsJson s.leeway),
      ("require_exp", .bool s.requireExpiry)])

/-- How settings are read, given how an algorithm is. -/
def formWith (algorithm : Json.Decoder Algorithm) : Json.Form AuthSettings :=
  mk <$> .absentOk "public_key_pem" Json.string
    <*> .absentOk "public_key_path" Json.string
    <*> .withDefault "algorithms" (Json.list algorithm) standard.algorithms
    <*> .withDefault "audience" Json.string standard.audience
    <*> .withDefault "leeway_seconds" Claims.decodeSeconds standard.leeway
    <*> .withDefault "require_exp" Json.boolean standard.requireExpiry

/-- Reads settings. -/
def decode : Json.Decoder AuthSettings := (formWith Algorithm.decode).decode "AuthConfig" .refuse

/-- Settings must name exactly one key source, some algorithm, and no negative leeway. -/
def validate (s : AuthSettings) : Except AuthError Unit :=
  match s.keyPem, s.keyPath with
  | none, none => .error (.settings "one of public_key_pem or public_key_path is required")
  | some _, some _ =>
    .error (.settings "public_key_pem and public_key_path are mutually exclusive")
  | _, _ =>
    if s.algorithms.isEmpty then .error (.settings "algorithms must not be empty")
    else if s.leeway < 0 then .error (.settings "leeway_seconds must be >= 0")
    else .ok ()

/-- The files that can be read, by path: their bytes, or why they cannot be read. -/
abbrev Files := String → Except String (List UInt8)

/-- The bytes of the public key, from the settings or from the file they name. -/
def keyBytes (s : AuthSettings) (files : Files) : Except AuthError (List UInt8) := do
  s.validate
  match s.keyPem with
  | some pem => pure pem.toUTF8.toList
  | none =>
    match s.keyPath with
    | none => .error (.settings "public key is not configured")
    | some path =>
      match files path with
      | .ok bytes => pure bytes
      | .error why => .error (.settings s!"failed to read public key from {path}: {why}")

/-- What is demanded of claims. -/
def claimCheck (s : AuthSettings) : ClaimCheck := ⟨s.audience, s.leeway, s.requireExpiry⟩

end AuthSettings

end Gatehouse
