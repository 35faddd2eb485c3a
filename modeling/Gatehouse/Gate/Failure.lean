import Gatehouse.Auth.Claims
import Gatehouse.Policy.Table
import Gatehouse.Company.Error
import Gatehouse.Log

/-!
# Failures of requests

Everything that a request through the gate can end with instead of an answer. What is said about a
rejected credential or a denial is fixed, so that it tells nothing about the reason; reasons go to
the log.
-/

namespace Gatehouse

/-- Why a request fails. -/
inductive Failure where
  | badToken
  | permissionDenied
  | invalid (field message : String)
  | notFound (resource id : String)
  | unexpected (message : String)
  | cancelled
  deriving DecidableEq

namespace Failure

/-- What a failure says. -/
def message : Failure → String
  | badToken => "missing or invalid credentials"
  | permissionDenied => "permission denied"
  | invalid field message => s!"validation failed on '{field}': {message}"
  | notFound resource id => s!"{resource} '{id}' not found"
  | unexpected message => s!"unexpected behavior: {message}"
  | cancelled => "request cancelled"

/-- The code by which machines tell failures apart. -/
def code : Failure → String
  | badToken => "bad_token"
  | permissionDenied => "permission_denied"
  | invalid _ _ => "validation_failed"
  | notFound _ _ => "entity_not_found"
  | unexpected _ => "unexpected_behavior"
  | cancelled => "cancelled"

/-- Whether the fault lies with the service; then nothing about it is said to callers. -/
def isInternal : Failure → Bool
  | unexpected _ | cancelled => true
  | _ => false

/-- What is said about failures whose reasons stay in the log. -/
def internalDetail : String := "internal error"

/-- What a caller is told. -/
def publicDetail (f : Failure) : String :=
  if f.isInternal then internalDetail else f.message

/-- A credential that does not verify is a bad token, whatever is wrong with it. -/
def ofAuth : AuthError → Failure
  | .invalidToken _ => badToken
  | .settings reason => unexpected reason

/-- A denial and a gap in a table look alike. -/
def ofPolicy : PolicyError → Failure
  | .permissionDenied => permissionDenied
  | .missingChain _ _ => permissionDenied

/-- An error of the registry keeps its meaning. -/
def ofRegistry : RegistryError → Failure
  | .notFound id => notFound "company" id.text
  | .invalid field message => invalid field message
  | .storage message => unexpected message

/-- The log entry about a failure that is answered. -/
def logEntry (f : Failure) : Log.Entry :=
  let fields := [("error", f.message), ("code", f.code)]
  if f.isInternal then Log.error "request failed" fields
  else Log.debug "request rejected" fields

end Failure

end Gatehouse
