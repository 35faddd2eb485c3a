import Gatehouse.Http.Message

/-!
# Request identifiers

Every response carries an identifier of its request: the one that the request brought, or a fresh
one.
-/

namespace Gatehouse.Http.RequestId

/-- The header that holds the identifier. -/
def header : String := "x-request-id"

/-- The identifier of a request, or the fresh one if it brought none. -/
def ofRequest (r : Request) (fresh : String) : String :=
  match (r.values header).head? with
  | some v => String.ofList (Text.decodeLossy v.bytes)
  | none => fresh

/-- The response with the identifier of its request. -/
def attach (r : Request) (fresh : String) (response : Response) : Response :=
  response.withHeader header (ofRequest r fresh)

end Gatehouse.Http.RequestId
