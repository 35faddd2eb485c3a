import Gatehouse.Company.Codec
import Gatehouse.Text.Lowercase

/-!
# Criteria

Which companies a listing is about. Paging is no part of it, so the same criteria select the rows
of a page and count them all.
-/

namespace Gatehouse

/-- Which companies are selected. An empty list restricts nothing. -/
structure Criteria where
  ids : List Uuid
  /-- A lower-case text that the name or the description must contain, in lower case too. -/
  needle : Option String
  legalForms : List LegalForm
  registered : Option Bool
  deriving DecidableEq

namespace Criteria

/-- Selects every company. -/
def any : Criteria := ⟨[], none, [], none⟩

/-- The needle of a search text: trimmed and in lower case, and none if nothing is left. -/
def needleOf? (search : Option String) : Option String :=
  search.bind fun s =>
    let trimmed := Text.trim s
    if trimmed.isEmpty then none else some (Text.lowercase trimmed)

/-- The criteria of a filter. -/
def ofFilter (f : Company.Filter) : Criteria :=
  ⟨f.ids, needleOf? f.search, f.legalForms, f.registered⟩

/-- Whether a text contains the needle, up to case. -/
def contains (text needle : String) : Bool :=
  Text.occursIn needle.toList (Text.lowerChars text.toList)

/-- Whether a company is selected. -/
def selects (c : Criteria) (company : Company) : Bool :=
  (c.ids.isEmpty || c.ids.contains company.id) &&
  (c.legalForms.isEmpty || c.legalForms.contains company.legalForm) &&
  (match c.registered with
    | some r => company.registered == r
    | none => true) &&
  (match c.needle with
    | some needle => contains company.name needle || contains company.description needle
    | none => true)

/-- The written form. -/
def toJson (c : Criteria) : Json :=
  .obj [("ids", .arr (c.ids.map Uuid.toJson)), ("search", .optional .str c.needle),
    ("types", .arr (c.legalForms.map LegalForm.toJson)),
    ("registered", .optional .bool c.registered)]

/-- How criteria are read; what is left out restricts nothing. -/
def form : Json.Form Criteria :=
  mk <$> .withDefault "ids" (Json.list Uuid.decode) []
    <*> .absentOk "search" Json.string
    <*> .withDefault "types" (Json.list LegalForm.decode) []
    <*> .absentOk "registered" Json.boolean

/-- Reads criteria. -/
def decode : Json.Decoder Criteria := form.decode "Criteria" .pass

end Criteria

end Gatehouse
