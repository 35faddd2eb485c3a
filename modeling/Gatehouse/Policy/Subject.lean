import Gatehouse.Json.Decode

/-!
# Callers

A verified caller. A caller who presented no credential is no subject at all; policies receive an
optional subject and decide what its absence means.
-/

namespace Gatehouse

/-- A verified caller: an identifier, whether the token says administrator, and the remaining
claims of the token. -/
structure Subject where
  id : String
  admin : Bool
  attributes : Members

namespace Subject

/-- A caller known by identifier alone. -/
def ofId (id : String) : Subject := ⟨id, false, []⟩

/-- The same caller with one more attribute, or with another value of one. -/
def withAttribute (s : Subject) (name : String) (value : Json) : Subject :=
  { s with attributes := s.attributes.put name value }

/-- The value of an attribute. -/
def attribute? (s : Subject) (name : String) : Option Json := s.attributes.get? name

/-- Whether an attribute is literally true. -/
def flag (s : Subject) (name : String) : Bool :=
  match s.attribute? name with
  | some (.bool b) => b
  | _ => false

/-- The written form. -/
def toJson (s : Subject) : Json :=
  .obj [("id", .str s.id), ("admin", .bool s.admin), ("attributes", .obj s.attributes)]

/-- How a caller is read. -/
def form : Json.Form Subject :=
  mk <$> .required "id" Json.string
    <*> .withDefault "admin" Json.boolean false
    <*> .withDefault "attributes" (Json.object 1) []

/-- Reads a caller. -/
def decode : Json.Decoder Subject := form.decode "Subject" .pass

end Subject

end Gatehouse
