import Gatehouse.Auth.PublicKey
import Gatehouse.Text.Base64

/-!
# Signed tokens

A token in its compact form: a header, a payload and a signature, each in base64, with dots between.
The header names the algorithm; the signature covers the first two parts as they are written.
-/

namespace Gatehouse.SignedToken

/-- The three parts of a token. -/
structure Parts where
  header : List Char
  payload : List Char
  signature : List Char

/-- The parts of a token, if there are just three. -/
def Parts.of? (token : String) : Option Parts :=
  match Text.parts '.' token.toList with
  | [header, payload, signature] => some ⟨header, payload, signature⟩
  | _ => none

/-- The message that the signature covers. -/
def Parts.signed (p : Parts) : List UInt8 := Text.encodeUtf8 (p.header ++ '.' :: p.payload)

/-- Reads the text of a part. -/
def readPart? (dec : Json.Decoder α) (part : List Char) : Option α := do
  let bytes ← Text.Base64.compact.decode? part
  (Json.decodeChars dec (← Text.decodeUtf8? bytes)).toOption

/-- Reads a list of texts or nothing. -/
def texts : Json.Decoder (Option (List String)) := Json.nullable (Json.list Json.string)

/-- Whether a value is a text. -/
def isText : Json → Bool
  | .str _ => true
  | _ => false

/-- Whether a value is a list of texts. -/
def isTextList : Json → Bool
  | .arr xs => xs.all isText
  | _ => false

/-- The curves that the record of a key may name. -/
def curveNames : List String := ["P-256", "P-384", "P-521", "Ed25519"]

/-- The kinds of keys, each with the members that hold its numbers and whether it lies on a curve. -/
def keyKinds : List (String × List String × Bool) :=
  [("EC", ["x", "y"], true), ("RSA", ["n", "e"], false), ("OKP", ["x"], true),
    ("oct", ["k"], false)]

/-- Whether members are the record of a key: one of the kinds with all its numbers, and notes on its
use that are texts or lists of texts. -/
def isKeyRecord (ms : Members) : Bool :=
  let holds (good : Json → Bool) (name : String) : Bool := (Members.get? name ms).any good
  let mayHold (good : Json → Bool) (name : String) : Bool :=
    (Members.get? name ms).all fun x => x.same .null || good x
  let isCurve : Json → Bool
    | .str s => curveNames.contains s
    | _ => false
  ["use", "alg", "kid", "x5u", "x5t", "x5t#S256"].all (mayHold isText) &&
    ["key_ops", "x5c"].all (mayHold isTextList) &&
    keyKinds.any fun (kind, numbers, onCurve) =>
      holds (·.same (.str kind)) "kty" && numbers.all (holds isText) &&
        (!onCurve || holds isCurve "crv")

/-- Reads the record of a key, which is not used: a token brings no key of its own. -/
def keyRecord : Json.Decoder Unit := fun t => do
  if isKeyRecord (← Json.object 1 t) then pure () else Json.misfit (.missingField "kty")

/-- How a header is read: the members with a meaning have their types; of these only the algorithm
matters. -/
def headerForm : Json.Form Algorithm :=
  (fun _ a _ _ _ _ _ _ _ _ _ _ _ _ _ => a) <$> .absentOk "typ" Json.string
    <*> .required "alg" Algorithm.decode
    <*> .absentOk "cty" Json.string
    <*> .absentOk "jku" Json.string
    <*> .absentOk "jwk" keyRecord
    <*> .absentOk "kid" Json.string
    <*> .absentOk "x5u" Json.string
    <*> .withDefault "x5c" texts none
    <*> .absentOk "x5t" Json.string
    <*> .absentOk "x5t#S256" Json.string
    <*> .withDefault "crit" texts none
    <*> .absentOk "enc" Json.string
    <*> .absentOk "zip" Json.string
    <*> .absentOk "url" Json.string
    <*> .absentOk "nonce" Json.string

/-- Reads a header. It is an object, and members without a meaning are texts. -/
def decodeHeader : Json.Decoder Algorithm
  | .obj members tail => do
    let (algorithm, rest) ← headerForm.ofObject (.keep 1) members tail
    if rest.all fun m => isText m.2 then pure algorithm
    else Json.misfit (.missingField "alg")
  | t => Json.expected "struct Header" t

/-- The algorithm that a token names. -/
def algorithm? (token : String) : Option Algorithm := do
  readPart? decodeHeader (← Parts.of? token).header

/-- Reads a value that may be anything but a list or an object that is not empty. -/
def plain : Json.Decoder Unit
  | .arr (_ :: _) _ | .obj (_ :: _) _ => Json.misfit (.missingField "")
  | _ => pure ()

/-- Reads a value that is neither a list nor an object. -/
def scalar : Json.Decoder Unit
  | .arr _ _ | .obj _ _ => Json.misfit (.missingField "")
  | _ => pure ()

/-- Reads any value. -/
def whatever : Json.Decoder Unit := fun t => (Json.anything 1 t).map fun _ => ()

/-- The registered members of a payload, none of which may be given twice. -/
def registered : Json.Form Unit :=
  (fun _ _ _ _ _ => ()) <$> .withDefault "exp" plain ()
    <*> .withDefault "nbf" plain ()
    <*> .optional "sub" scalar
    <*> .optional "iss" whatever
    <*> .optional "aud" whatever

/-- The payload of a token whose signature under an algorithm is right. -/
def payload? (key : PublicKey) (algorithm : Algorithm) (token : String) : Option Json := do
  let parts ← Parts.of? token
  let signature ← Text.Base64.compact.decode? parts.signature
  if key.verifies algorithm parts.signed signature then
    let payload ← readPart? (Json.anything 0) parts.payload
    readPart? (registered.decode "payload" .pass) parts.payload
    some payload
  else none

end Gatehouse.SignedToken
