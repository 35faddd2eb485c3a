import Gatehouse.Http.Message

/-!
# Routes

What the path and the method of a request ask for. A path is matched as it is written, so an escaped
character never matches a fixed name; a path outside the routes and a method that a route does not
have are told apart.
-/

namespace Gatehouse.Http

/-- The paths that are served. The identifier of a company is kept as it is written. -/
inductive Route where
  | health
  | companies
  | events
  | company (segment : List Char)
  deriving DecidableEq

/-- What a request asks for. -/
inductive Action where
  | health
  | create
  | list
  | events
  | get (segment : List Char)
  | update (segment : List Char)
  | delete (segment : List Char)
  deriving DecidableEq

namespace Route

/-- The route that a path matches. -/
def of? (path : List Char) : Option Route :=
  match Text.parts '/' path with
  | [[], first] =>
    if String.ofList first = "health" then some .health
    else if String.ofList first = "companies" then some .companies
    else none
  | [[], first, second] =>
    if String.ofList first = "companies" ∧ second ≠ [] then
      if String.ofList second = "events" then some .events else some (.company second)
    else none
  | _ => none

/-- What a method asks for on a route. -/
def action? : Route → (method : String) → Option Action
  | health, "GET" => some .health
  | companies, "POST" => some .create
  | companies, "GET" => some .list
  | events, "GET" => some .events
  | company s, "GET" => some (.get s)
  | company s, "PATCH" => some (.update s)
  | company s, "DELETE" => some (.delete s)
  | _, _ => none

/-- The methods of a route, as a refusal lists them. -/
def methods : Route → String
  | health | events => "GET,HEAD"
  | companies => "POST,GET,HEAD"
  | company _ => "GET,HEAD,PATCH,DELETE"

end Route

end Gatehouse.Http
