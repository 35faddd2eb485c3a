import Gatehouse.Company.Basic
import Gatehouse.Json.Decode

/-!
# Wire shapes of companies

How companies and the payloads about them are written as JSON and read back. A stored company and a
company in an answer differ in the order of their timestamps. Requests over the wire name the legal
form `type`, payloads inside the service name it `company_type`.
-/

namespace Gatehouse

namespace Uuid

/-- Reads an identifier. -/
def decode : Json.Decoder Uuid
  | .str (some s) =>
    match parse? s with
    | some u => .ok u
    | none => Json.misfit (.refused "malformed UUID")
  | t => Json.expected "a formatted UUID string" t

/-- The written form. -/
def toJson (u : Uuid) : Json := .str u.text

end Uuid

namespace Timestamp

/-- Reads a moment. -/
def decode : Json.Decoder Timestamp
  | .str (some s) =>
    match parse? s with
    | some t => .ok t
    | none => Json.misfit (.refused "malformed timestamp")
  | t => Json.expected "an RFC3339-formatted `OffsetDateTime`" t

/-- The written form. -/
def toJson (t : Timestamp) : Json := .str t.text

end Timestamp

namespace LegalForm

/-- Reads a legal form. -/
def decode : Json.Decoder LegalForm := fun t => do
  let code ← Json.unsigned 8 t
  match ofCode? code with
  | some f => pure f
  | none => Json.misfit (.refused (unknown code))

/-- The written form. -/
def toJson (f : LegalForm) : Json := .nat f.code

end LegalForm

namespace Company

/-- Reads a number of employees. -/
def decodeEmployees : Json.Decoder Int32 := fun t => (Json.signed 32 t).map Int32.ofInt

/-- Reads a 64-bit count. -/
def decodeCount : Json.Decoder UInt64 := fun t => (Json.unsigned 64 t).map Nat.toUInt64

/-- The written form of a number of employees. -/
def employeesJson (n : Int32) : Json := .int n.toInt

/-- The written form of a 64-bit count. -/
def countJson (n : UInt64) : Json := .nat n.toNat

/-- The written form of a stored company. -/
def toJson (c : Company) : Json :=
  .obj [("id", c.id.toJson), ("created_at", c.createdAt.toJson),
    ("updated_at", c.updatedAt.toJson), ("name", .str c.name),
    ("description", .str c.description), ("amount_of_employees", employeesJson c.employees),
    ("registered", .bool c.registered), ("type", c.legalForm.toJson)]

/-- How a stored company is read. -/
def form : Json.Form Company :=
  mk <$> .required "id" Uuid.decode
    <*> .required "created_at" Timestamp.decode
    <*> .required "updated_at" Timestamp.decode
    <*> .required "name" Json.string
    <*> .required "description" Json.string
    <*> .required "amount_of_employees" decodeEmployees
    <*> .required "registered" Json.boolean
    <*> .required "type" LegalForm.decode

/-- Reads a stored company. -/
def decode : Json.Decoder Company := form.decode "Company" .pass

/-- The written form of a company in an answer. -/
def answerJson (c : Company) : Json :=
  .obj [("id", c.id.toJson), ("updated_at", c.updatedAt.toJson),
    ("created_at", c.createdAt.toJson), ("name", .str c.name),
    ("description", .str c.description), ("amount_of_employees", employeesJson c.employees),
    ("registered", .bool c.registered), ("type", c.legalForm.toJson)]

/-- How a company in an answer is read. -/
def answerForm : Json.Form Company :=
  (fun id updatedAt createdAt => mk id createdAt updatedAt)
    <$> .required "id" Uuid.decode
    <*> .required "updated_at" Timestamp.decode
    <*> .required "created_at" Timestamp.decode
    <*> .required "name" Json.string
    <*> .required "description" Json.string
    <*> .required "amount_of_employees" decodeEmployees
    <*> .required "registered" Json.boolean
    <*> .required "type" LegalForm.decode

/-- Reads a company in an answer. -/
def decodeAnswer : Json.Decoder Company := answerForm.decode "CompanyDto" .pass

namespace Draft

/-- The members of a draft; the legal form goes by the given name. -/
def toJson (legalFormKey : String) (d : Draft) : Json :=
  .obj [("name", .str d.name), ("description", .str d.description),
    ("amount_of_employees", employeesJson d.employees), ("registered", .bool d.registered),
    (legalFormKey, d.legalForm.toJson)]

/-- How a draft inside the service is read. -/
def form : Json.Form Draft :=
  mk <$> .required "name" Json.string
    <*> .required "description" Json.string
    <*> .required "amount_of_employees" decodeEmployees
    <*> .required "registered" Json.boolean
    <*> .required "company_type" LegalForm.decode

/-- Reads a draft inside the service. -/
def decode : Json.Decoder Draft := form.decode "CompanyCreate" .pass

/-- How a draft on the wire is read: what is left out is blank or zero, so that the validation and
not the decoder complains about it. -/
def requestForm : Json.Form Draft :=
  mk <$> .withDefault "name" Json.string ""
    <*> .withDefault "description" Json.string ""
    <*> .withDefault "amount_of_employees" decodeEmployees 0
    <*> .withDefault "registered" Json.boolean false
    <*> .required "type" LegalForm.decode

/-- Reads a draft on the wire. -/
def decodeRequest : Json.Decoder Draft := requestForm.decode "CreateCompanyReq" .pass

end Draft

namespace Patch

/-- The members of a patch that are no identifier; the legal form goes by the given name. -/
def changes (legalFormKey : String) (p : Patch) : List (String × Json) :=
  [("name", .optional .str p.name), ("description", .optional .str p.description),
    ("amount_of_employees", .optional employeesJson p.employees),
    ("registered", .optional .bool p.registered),
    (legalFormKey, .optional LegalForm.toJson p.legalForm)]

/-- The written form inside the service. -/
def toJson (p : Patch) : Json := .obj (("id", p.id.toJson) :: p.changes "company_type")

/-- The written form on the wire, where the identifier is elsewhere. -/
def requestJson (p : Patch) : Json := .obj (p.changes "type")

/-- How a patch inside the service is read. -/
def form : Json.Form Patch :=
  mk <$> .required "id" Uuid.decode
    <*> .optional "name" Json.string
    <*> .optional "description" Json.string
    <*> .optional "amount_of_employees" decodeEmployees
    <*> .optional "registered" Json.boolean
    <*> .optional "company_type" LegalForm.decode

/-- Reads a patch inside the service. -/
def decode : Json.Decoder Patch := form.decode "CompanyUpdate" .pass

/-- How a patch on the wire is read; the identifier comes from elsewhere. -/
def requestForm : Json.Form (Uuid → Patch) :=
  (fun name description employees registered legalForm id =>
      mk id name description employees registered legalForm)
    <$> .optional "name" Json.string
    <*> .optional "description" Json.string
    <*> .optional "amount_of_employees" decodeEmployees
    <*> .optional "registered" Json.boolean
    <*> .optional "type" LegalForm.decode

/-- Reads a patch on the wire. -/
def decodeRequest : Json.Decoder (Uuid → Patch) := requestForm.decode "UpdateCompanyReq" .pass

end Patch

namespace Filter

/-- The written form. -/
def toJson (f : Filter) : Json :=
  .obj [("ids", .arr (f.ids.map Uuid.toJson)), ("page_size", .optional countJson f.pageSize),
    ("page_number", .optional countJson f.pageNumber),
    ("order_by", .arr (f.orderBy.map .str)), ("search", .optional .str f.search),
    ("types", .arr (f.legalForms.map LegalForm.toJson)),
    ("registered", .optional .bool f.registered)]

/-- How a filter is read. -/
def form : Json.Form Filter :=
  mk <$> .required "ids" (Json.list Uuid.decode)
    <*> .optional "page_size" decodeCount
    <*> .optional "page_number" decodeCount
    <*> .required "order_by" (Json.list Json.string)
    <*> .optional "search" Json.string
    <*> .required "types" (Json.list LegalForm.decode)
    <*> .optional "registered" Json.boolean

/-- Reads a filter. -/
def decode : Json.Decoder Filter := form.decode "CompanyFilter" .pass

end Filter

end Company

end Gatehouse
