import Gatehouse.Policy.Subject

/-!
# Claims

The payload of a token. Seven claims have a meaning here; all others are kept as they are and reach
the policies as attributes of the caller.
-/

namespace Gatehouse

/-- The payload of a verified token. -/
structure Claims where
  subject : Option String
  audiences : List String
  expiry : Option Int64
  notBefore : Option Int64
  issuedAt : Option Int64
  tokenId : Option String
  admin : Bool
  extras : Members

/-- Why a presented credential is rejected. The details are for logs; callers see one outcome. -/
inductive ClaimsError where
  | decodeFailed (reason : String)
  | algorithmNotAllowed (name : String)
  | invalidAudience (expected : String) (actual : List String)
  | expired
  | notYetValid
  | missingClaim (name : String)
  | malformed (reason : String)
  deriving DecidableEq

/-- What a claims error says. -/
def ClaimsError.message : ClaimsError → String
  | decodeFailed reason => s!"JWT decode failed: {reason}"
  | algorithmNotAllowed name => s!"Algorithm {name} is not accepted"
  | invalidAudience expected actual =>
    s!"Invalid audience: expected {expected}, got {Text.quotedList actual}"
  | expired => "Token expired"
  | notYetValid => "Token not yet valid (nbf check failed)"
  | missingClaim name => s!"Missing required claim: {name}"
  | malformed reason => s!"Malformed claims: {reason}"

/-- Why a caller cannot be authenticated: a credential that does not verify, or a verifier that
cannot be built from its settings. -/
inductive AuthError where
  | invalidToken (why : ClaimsError)
  | settings (reason : String)
  deriving DecidableEq

/-- What an authentication error says. -/
def AuthError.message : AuthError → String
  | invalidToken why => s!"Invalid token: {why.message}"
  | settings reason => s!"Invalid auth configuration: {reason}"

namespace Claims

/-- Reads audiences: one text, several, or none. The value is read whole before it is looked at. -/
def decodeAudiences (depth : Json.Depth) : Json.Decoder (List String) := fun t => do
  match ← Json.anything depth t with
  | .null => pure []
  | .str s => pure [s]
  | .arr items =>
    let texts := items.mapM fun
      | .str s => some s
      | _ => none
    match texts with
    | some xs => pure xs
    | none => Json.misfit (.noAlternative "OneOrMany")
  | _ => Json.misfit (.noAlternative "OneOrMany")

/-- Reads a flag leniently: everything but `true` is false. -/
def decodeFlag (depth : Json.Depth) : Json.Decoder Bool := fun t => do
  match ← Json.anything depth t with
  | .bool b => pure b
  | _ => pure false

/-- Reads a number of seconds. -/
def decodeSeconds : Json.Decoder Int64 := fun t => (Json.signed 64 t).map Int64.ofInt

/-- How the claims with a meaning are read. -/
def form (depth : Json.Depth) : Json.Form (Members → Claims) :=
  mk <$> .absentOk "sub" Json.string
    <*> .withDefault "aud" (decodeAudiences depth) []
    <*> .absentOk "exp" decodeSeconds
    <*> .absentOk "nbf" decodeSeconds
    <*> .absentOk "iat" decodeSeconds
    <*> .absentOk "jti" Json.string
    <*> .withDefault "admin" (decodeFlag depth) false

/-- Reads claims whose members lie at some depth. They are an object, and what has no meaning here is
kept. -/
def decodeAt (depth : Json.Depth) : Json.Decoder Claims
  | .obj members tail => do
    let (make, rest) ← (form depth).ofObject (.keep depth) members tail
    pure (make (Members.ofMentions rest))
  | t => Json.expected "struct Claims" t

/-- Reads claims from a text. -/
def decode : Json.Decoder Claims := decodeAt 1

/-- Reads claims from a JSON value. -/
def ofJson (x : Json) : Except Json.Fault Claims := decodeAt .unlimited x.toTree

/-- A member that is left out when there is nothing to say. -/
def member (name : String) (encode : α → Json) : Option α → Members
  | none => []
  | some a => [(name, encode a)]

/-- The written form of a number of seconds. -/
def secondsJson (n : Int64) : Json := .int n.toInt

/-- The written form: absent claims are left out, the extra claims come last. -/
def toJson (c : Claims) : Json :=
  .obj (member "sub" .str c.subject ++
    (if c.audiences.isEmpty then [] else [("aud", .arr (c.audiences.map .str))]) ++
    member "exp" secondsJson c.expiry ++ member "nbf" secondsJson c.notBefore ++
    member "iat" secondsJson c.issuedAt ++ member "jti" .str c.tokenId ++
    [("admin", .bool c.admin)] ++ c.extras)

/-- The caller that the claims name; they must name one. -/
def toSubject (c : Claims) : Except ClaimsError Subject :=
  match c.subject with
  | some id => if id.isEmpty then .error (.missingClaim "sub") else .ok ⟨id, c.admin, c.extras⟩
  | none => .error (.missingClaim "sub")

end Claims

end Gatehouse
