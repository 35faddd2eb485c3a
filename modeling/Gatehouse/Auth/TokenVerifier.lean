import Gatehouse.Auth.Bearer
import Gatehouse.Auth.Settings
import Gatehouse.Auth.SignedToken

/-!
# Verifying tokens

A verifier holds the accepted algorithms, all of one family, and the demands on claims. A token
passes six steps in order: its header names an algorithm, the algorithm is accepted, the signature is
right, the payload is a set of claims, the claims meet the demands, and they name a caller.
-/

namespace Gatehouse

/-- A verifier of signed tokens. -/
structure TokenVerifier where
  algorithms : List Algorithm
  check : ClaimCheck
  /-- The payload of a token whose signature under an algorithm is right. -/
  payload? : Algorithm → String → Option Json

namespace TokenVerifier

/-- The family of the first algorithm, if all others belong to it too and it is not symmetric. -/
def familyOf (algorithms : List Algorithm) : Except AuthError KeyFamily :=
  match algorithms with
  | [] => .error (.settings "algorithms must not be empty")
  | first :: rest =>
    if rest.any fun a => a.family ≠ first.family then
      .error (.settings "algorithms must all use the same key family")
    else if first.family = .symmetric then
      .error (.settings
        "symmetric algorithms are not supported; configure a public key algorithm")
    else .ok first.family

/-- Makes a verifier from the text of a public key. -/
def of (keyText : List UInt8) (algorithms : List Algorithm) (check : ClaimCheck) :
    Except AuthError TokenVerifier := do
  let family ← familyOf algorithms
  match PublicKey.read? family keyText with
  | some key => .ok ⟨algorithms, check, SignedToken.payload? key⟩
  | none => .error (.settings "invalid public key")

/-- Makes a verifier from settings. -/
def ofSettings (s : AuthSettings) (files : AuthSettings.Files) : Except AuthError TokenVerifier := do
  of (← s.keyBytes files) s.algorithms s.claimCheck

/-- The caller that a token stands for at a given time. -/
def subjectOf (v : TokenVerifier) (now : Int64) (token : Token) : Except ClaimsError Subject := do
  let some algorithm := SignedToken.algorithm? token.text
    | .error (.decodeFailed "Invalid JWT header")
  if !v.algorithms.contains algorithm then .error (.algorithmNotAllowed algorithm.name)
  let some payload := v.payload? algorithm token.text
    | .error (.decodeFailed "JWT validation failed")
  let claims ← (Claims.ofJson payload).mapError fun f => .malformed f.message
  v.check.check claims now
  claims.toSubject

/-- What is logged about a verdict. -/
def verdictEntry : Except ClaimsError Subject → Log.Entry
  | .ok s => Log.debug "token verified" [("subject", s.id), ("admin", Log.flag s.admin)]
  | .error e => Log.debug "token rejected" [("error", e.message)]

/-- Verifies a raw credential. A blank one stands for nobody; one that is presented is never taken
for an absent one. -/
def verify (v : TokenVerifier) (now : Int64) (raw : Option String) :
    Except AuthError (Option Subject) × List Log.Entry :=
  match Token.parse? raw with
  | none => (.ok none, [])
  | some token =>
    let verdict := v.subjectOf now token
    ((verdict.map some).mapError .invalidToken, [verdictEntry verdict])

/-- The verifier as debug texts show it, without its key. -/
def describe (v : TokenVerifier) : String :=
  let names := ", ".intercalate (v.algorithms.map Algorithm.name)
  s!"JwtTokenVerifier \x7b algorithms: [{names}], validation: {v.check.describe}, .. \x7d"

end TokenVerifier

end Gatehouse
