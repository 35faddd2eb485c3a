import Gatehouse.Company.Codec
import Gatehouse.Company.Error
import Gatehouse.Decimal.Numeral
import Gatehouse.Text.Blank

/-!
# Requests for listings

The parameters of a request to list companies, as the query string of a request gives them. Lists
are written with commas; blanks around their parts do not count, and neither do blank parts.
-/

namespace Gatehouse

/-- The parameters of a request to list companies. -/
structure ListRequest where
  ids : Option String
  pageSize : Option UInt64
  pageNumber : Option UInt64
  orderBy : Option String
  search : Option String
  legalForms : Option String
  registered : Option Bool
  deriving DecidableEq

namespace ListRequest

/-- The request without parameters. -/
def empty : ListRequest := ⟨none, none, none, none, none, none, none⟩

/-- How a request is read; every parameter may be left out. -/
def form : Json.Form ListRequest :=
  mk <$> .absentOk "ids" Json.string
    <*> .absentOk "page_size" Company.decodeCount
    <*> .absentOk "page_number" Company.decodeCount
    <*> .absentOk "order_by" Json.string
    <*> .absentOk "search" Json.string
    <*> .absentOk "types" Json.string
    <*> .absentOk "registered" Json.boolean

/-- Reads a request whose parameters have their types already. -/
def decode : Json.Decoder ListRequest := form.decode "ListRequest" .pass

/-- The parts of a list that are not blank, without the blanks around them. -/
def entries (raw : Option String) : List String :=
  (((Text.parts ',' (raw.getD "").toList).map Text.trimChars).filter
    fun part => !part.isEmpty).map String.ofList

/-- Reads an identifier of the list of identifiers. -/
def readId (raw : String) : Except RegistryError Uuid :=
  match Uuid.parse? raw with
  | some id => .ok id
  | none => .error (.invalid "ids" s!"'{raw}' is not a valid UUID")

/-- Reads a number of the list of legal forms. -/
def readLegalForm (raw : String) : Except RegistryError LegalForm :=
  match (Numeral.read 0 255 raw.toList).toOption.bind fun n => LegalForm.ofCode? n.toNat with
  | some f => .ok f
  | none => .error (.invalid "types" s!"'{raw}' is not a company type")

/-- Reads each entry of a list; the first that cannot be read is the error. -/
def readAll (read : String → Except RegistryError α) : List String → Except RegistryError (List α)
  | [] => .ok []
  | s :: ss => do
    let a ← read s
    let rest ← readAll read ss
    pure (a :: rest)

/-- The filter that the parameters describe. The keys of the order are left for later. -/
def toFilter (r : ListRequest) : Except RegistryError Company.Filter := do
  let ids ← readAll readId (entries r.ids)
  let legalForms ← readAll readLegalForm (entries r.legalForms)
  pure ⟨ids, r.pageSize, r.pageNumber, entries r.orderBy, r.search, legalForms, r.registered⟩

end ListRequest

end Gatehouse
