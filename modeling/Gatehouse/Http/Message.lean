import Gatehouse.Auth.Bearer
import Gatehouse.Http.Problem
import Gatehouse.Http.Target

/-!
# Requests and responses

Messages as the routes see them: a method, a target, headers and a body; a status, headers and a body.
-/

namespace Gatehouse.Http

/-- A request. The names of headers are in lower case. -/
structure Request where
  method : String
  target : Target
  headers : List (String × Bearer.HeaderValue)
  body : List UInt8

namespace Request

/-- Makes a request from its parts, if they are legal. -/
def of? (method target : String) (headers : List (String × List UInt8)) (body : List UInt8) :
    Option Request := do
  let target ← Target.parse? target
  let headers ← headers.mapM fun (name, value) => do
    let value ← Bearer.HeaderValue.of? value
    if isToken name then some (String.ofList (name.toList.map Char.toLower), value) else none
  if isToken method then some ⟨method, target, headers, body⟩ else none

/-- The values of a header, in order. -/
def values (r : Request) (name : String) : List Bearer.HeaderValue :=
  (r.headers.filter fun h => h.1 == name).map Prod.snd

/-- The credential of a request. -/
def credential? (r : Request) : Option String := Bearer.fromHeaders? (r.values "authorization")

end Request

/-- What a response carries. -/
inductive Body where
  | empty
  | text (s : String)
  | json (j : Json)
  /-- The events that are sent from now on. -/
  | events

/-- A response. -/
structure Response where
  status : StatusCode
  headers : List (String × String)
  body : Body

namespace Response

/-- The type of plain text. -/
def plainText : String := "text/plain; charset=utf-8"

/-- A response that says nothing more. -/
def bare (status : StatusCode) : Response := ⟨status, [], .empty⟩

/-- A response in plain text. -/
def text (status : StatusCode) (s : String) : Response :=
  ⟨status, [("content-type", plainText)], .text s⟩

/-- A response in JSON. -/
def json (status : StatusCode) (j : Json) : Response :=
  ⟨status, [("content-type", "application/json")], .json j⟩

/-- The stream of events. -/
def events : Response :=
  ⟨.ok, [("content-type", "text/event-stream"), ("cache-control", "no-cache")], .events⟩

/-- The problem document that answers a failure. -/
def problem (f : Failure) : Response :=
  ⟨f.httpStatus, [("content-type", "application/problem+json")], .json f.toProblem.toJson⟩

/-- The same response with one more header. -/
def withHeader (r : Response) (name value : String) : Response :=
  { r with headers := r.headers ++ [(name, value)] }

/-- The same response without its body. -/
def withoutBody (r : Response) : Response := { r with body := .empty }

/-- The value of a header. -/
def header? (r : Response) (name : String) : Option String :=
  (r.headers.find? fun h => h.1 == name).map Prod.snd

end Response

end Gatehouse.Http
