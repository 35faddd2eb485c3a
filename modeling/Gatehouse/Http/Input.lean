import Gatehouse.Company.Codec
import Gatehouse.Company.ListRequest
import Gatehouse.Decimal.Numeral
import Gatehouse.Http.MediaType
import Gatehouse.Http.Message
import Gatehouse.Text.Percent

/-!
# The input of a request

Reading the identifier, the query and the body of a request. What cannot be read is a failure with
the name of the part at fault; the gate decides when it is reported.
-/

namespace Gatehouse.Http

/-! ## Identifiers -/

/-- The text of a segment of the path, unless its bytes are no text. -/
def segmentText? (segment : List Char) : Option String :=
  (Text.decodeUtf8? (Text.percentDecode (Text.encodeUtf8 segment))).map String.ofList

/-- Reads the identifier of a company. -/
def readId (text : String) : Except Failure Uuid :=
  match Uuid.parse? text with
  | some id => .ok id
  | none => .error (.invalid "id" "must be a valid UUID")

/-! ## Queries -/

/-- Why a value of a query cannot be read. -/
def queryFault (what : String) : Failure :=
  .invalid "query" s!"Failed to deserialize query string: {what}"

/-- Reads a number of a query. -/
def readCount (value : String) : Except String UInt64 :=
  match Numeral.read 0 0xFFFFFFFFFFFFFFFF value.toList with
  | .ok n => .ok n.toNat.toUInt64
  | .error why => .error why.message

/-- Reads a truth value of a query. -/
def readFlag (value : String) : Except String Bool :=
  if value = "true" then .ok true
  else if value = "false" then .ok false
  else .error "provided string was not `true` or `false`"

/-- Puts a value into a field of a query, which must not have one already. -/
def fill {α : Type} (name : String) (present : Option α) (value : Except String α) :
    Except Failure (Option α) :=
  if present.isSome then .error (queryFault s!"duplicate field `{name}`")
  else
    match value with
    | .ok a => .ok (some a)
    | .error what => .error (queryFault s!"{name}: {what}")

/-- Takes a pair of a query into the request for a listing. Unknown names do not count. -/
def takePair (r : ListRequest) : String × String → Except Failure ListRequest
  | ("ids", v) => do pure { r with ids := ← fill "ids" r.ids (.ok v) }
  | ("page_size", v) => do pure { r with pageSize := ← fill "page_size" r.pageSize (readCount v) }
  | ("page_number", v) => do
    pure { r with pageNumber := ← fill "page_number" r.pageNumber (readCount v) }
  | ("order_by", v) => do pure { r with orderBy := ← fill "order_by" r.orderBy (.ok v) }
  | ("search", v) => do pure { r with search := ← fill "search" r.search (.ok v) }
  | ("types", v) => do pure { r with legalForms := ← fill "types" r.legalForms (.ok v) }
  | ("registered", v) => do
    pure { r with registered := ← fill "registered" r.registered (readFlag v) }
  | _ => pure r

/-- Reads the filter of a listing. -/
def readFilter (r : Request) : Except Failure Company.Filter := do
  let pairs := Text.queryPairs (r.target.query.getD [])
  let request ← pairs.foldlM takePair ListRequest.empty
  request.toFilter.mapError .ofRegistry

/-! ## Bodies -/

/-- The length that no body exceeds, in bytes. -/
def maxBodyLength : Nat := 2097152

/-- Why a body cannot be read. -/
def bodyFault (what : String) : Failure := .invalid "body" what

/-- Whether a request says that its body is JSON. -/
def saysJson (r : Request) : Bool :=
  (((r.values "content-type").head?.bind Bearer.HeaderValue.text?).bind MediaType.parse?).any
    MediaType.isJson

/-- The characters of a body. A byte that belongs to no character is spelled as an escape that stands
for no character either, so that it is at fault wherever it is read. -/
def bodyChars (bytes : List UInt8) : List Char :=
  (Text.pieces bytes).flatMap fun
    | .char c => [c]
    | .stray _ => ['\\', 'u', 'd', '8', '0', '0', '.']

/-- The place of a fault, as a message names it. -/
def pathText (path : List Json.Step) : String :=
  let step (s : Json.Step) : String :=
    match s with
    | .member name => s!".{name}"
    | .item i => s!"[{i}]"
  match (String.join (path.map step)).toList with
  | '.' :: rest => String.ofList rest
  | text => String.ofList text

/-- What is said about a fault in a body. -/
def faultText : Json.Fault → String
  | .cut _ => "Failed to parse the request body as JSON"
  | .mismatch path what =>
    "Failed to deserialize the JSON body into the target type: " ++
      (if path.isEmpty then "" else pathText path ++ ": ") ++ what.message

/-- Reads a body. -/
def readBody (dec : Json.Decoder α) (r : Request) : Except Failure α :=
  if !saysJson r then .error (bodyFault "Expected request with `Content-Type: application/json`")
  else if maxBodyLength < r.body.length then
    .error (bodyFault "Failed to buffer the request body: length limit exceeded")
  else (Json.decodeChars dec (bodyChars r.body)).mapError fun f => bodyFault (faultText f)

end Gatehouse.Http
