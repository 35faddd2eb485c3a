import Gatehouse.Gate.Failure
import Gatehouse.Json.Decode
import Gatehouse.Json.Printer

/-!
# Problem documents

The machine-readable form in which a failure is answered: a status, a title, what happened, a code,
and the fields at fault. Parts that say nothing are left out.
-/

namespace Gatehouse

/-- A status code of three digits. -/
structure StatusCode where
  number : Nat
  hundred_le : 100 ≤ number
  lt_thousand : number < 1000
  deriving DecidableEq

namespace StatusCode

/-- The status code with a given number. -/
def of? (number : Nat) : Option StatusCode :=
  if h : 100 ≤ number ∧ number < 1000 then some ⟨number, h.1, h.2⟩ else none

/-- What is said about a number that is no status code. -/
def invalidText : String := "invalid status code"

/-- Reads a status code. -/
def decode : Json.Decoder StatusCode := fun t => do
  match of? (← Json.unsigned 16 t) with
  | some s => pure s
  | none => Json.misfit (.refused invalidText)

/-- The request succeeded. -/
def ok : StatusCode := ⟨200, by decide, by decide⟩

/-- A resource was created. -/
def created : StatusCode := ⟨201, by decide, by decide⟩

/-- The request succeeded, and there is nothing to say. -/
def noContent : StatusCode := ⟨204, by decide, by decide⟩

/-- The request is at fault. -/
def badRequest : StatusCode := ⟨400, by decide, by decide⟩

/-- The credential is at fault. -/
def unauthorized : StatusCode := ⟨401, by decide, by decide⟩

/-- The caller may not do this. -/
def forbidden : StatusCode := ⟨403, by decide, by decide⟩

/-- There is no such thing. -/
def notFound : StatusCode := ⟨404, by decide, by decide⟩

/-- The method does not apply to this path. -/
def methodNotAllowed : StatusCode := ⟨405, by decide, by decide⟩

/-- The service is at fault. -/
def internalError : StatusCode := ⟨500, by decide, by decide⟩

end StatusCode

/-- A field at fault, and what is wrong with it. -/
structure Violation where
  field : String
  message : String
  deriving DecidableEq

namespace Violation

/-- The written form. -/
def toJson (v : Violation) : Json := .obj [("field", .str v.field), ("message", .str v.message)]

/-- Reads a violation. -/
def decode : Json.Decoder Violation :=
  (mk <$> Json.Form.required "field" Json.string
    <*> .required "message" Json.string).decode "ValidationViolation" .pass

end Violation

/-- A problem document. -/
structure Problem where
  type : String
  title : String
  status : StatusCode
  detail : String
  occurrence : String
  code : String
  errors : Option (List Violation)
  deriving DecidableEq

namespace Problem

/-- A problem of no particular type about which nothing more is known. -/
def of (status : StatusCode) (title detail : String) : Problem :=
  ⟨"about:blank", title, status, detail, "", "", none⟩

/-- The written form. An empty occurrence and absent errors are left out. -/
def toJson (p : Problem) : Json :=
  .obj ([("type", .str p.type), ("title", .str p.title), ("status", .nat p.status.number),
      ("detail", .str p.detail)] ++
    (if p.occurrence.isEmpty then [] else [("instance", .str p.occurrence)]) ++
    [("code", .str p.code)] ++
    (match p.errors with
      | none => []
      | some vs => [("errors", .arr (vs.map Violation.toJson))]))

/-- How a problem is read. -/
def form : Json.Form Problem :=
  mk <$> .required "type" Json.string
    <*> .required "title" Json.string
    <*> .required "status" StatusCode.decode
    <*> .required "detail" Json.string
    <*> .withDefault "instance" Json.string ""
    <*> .required "code" Json.string
    <*> .absentOk "errors" (Json.list Violation.decode)

/-- Reads a problem. -/
def decode : Json.Decoder Problem := form.decode "Problem" .pass

end Problem

namespace Failure

/-- The status of each failure. -/
def httpStatus : Failure → StatusCode
  | badToken => .unauthorized
  | permissionDenied => .forbidden
  | invalid _ _ => .badRequest
  | notFound _ _ => .notFound
  | unexpected _ | cancelled => .internalError

/-- The usual title for the status of a failure. -/
def title : Failure → String
  | badToken => "Unauthorized"
  | permissionDenied => "Forbidden"
  | invalid _ _ => "Bad Request"
  | notFound _ _ => "Not Found"
  | unexpected _ | cancelled => "Internal Server Error"

/-- The fields at fault. -/
def violations : Failure → Option (List Violation)
  | invalid field message => some [⟨field, message⟩]
  | _ => none

/-- The problem document that reports a failure. -/
def toProblem (f : Failure) : Problem :=
  { Problem.of f.httpStatus f.title f.publicDetail with code := f.code, errors := f.violations }

end Failure

end Gatehouse
