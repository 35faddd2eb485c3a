import Gatehouse.Policy.Checker
import Gatehouse.Uuid
import Gatehouse.Timestamp

/-!
# Companies

The records of the registry, the payloads of requests to create and to change one, and the filter
of a request to list them.
-/

namespace Gatehouse

/-- The legal form of a company. It travels as a number. -/
inductive LegalForm where
  | corporation
  | nonProfit
  | cooperative
  | soleProprietorship
  deriving DecidableEq, Inhabited

namespace LegalForm

/-- The number of a legal form. -/
def code : LegalForm → Nat
  | corporation => 1
  | nonProfit => 2
  | cooperative => 3
  | soleProprietorship => 4

/-- The legal form with a given number. -/
def ofCode? : Nat → Option LegalForm
  | 1 => some corporation
  | 2 => some nonProfit
  | 3 => some cooperative
  | 4 => some soleProprietorship
  | _ => none

/-- What is said about a number that belongs to no legal form. -/
def unknown (code : Nat) : String := s!"unknown company type {code}; expected 1..=4"

@[simp] theorem ofCode?_code (f : LegalForm) : ofCode? f.code = some f := by cases f <;> rfl

/-- Legal forms are ordered by their numbers. -/
instance : Ord LegalForm := ⟨fun a b => compare a.code b.code⟩

end LegalForm

/-- A company of the registry. -/
structure Company where
  id : Uuid
  createdAt : Timestamp
  updatedAt : Timestamp
  name : String
  description : String
  employees : Int32
  registered : Bool
  legalForm : LegalForm
  deriving DecidableEq, Inhabited

namespace Company

/-- What a request to create a company says. The registry assigns identifier and timestamps. -/
structure Draft where
  name : String
  description : String
  employees : Int32
  registered : Bool
  legalForm : LegalForm
  deriving DecidableEq

/-- What a request to change a company says; a field that is none stays as it is. -/
structure Patch where
  id : Uuid
  name : Option String
  description : Option String
  employees : Option Int32
  registered : Option Bool
  legalForm : Option LegalForm
  deriving DecidableEq

/-- The patch that changes nothing. -/
def Patch.empty (id : Uuid) : Patch := ⟨id, none, none, none, none, none⟩

/-- The company with the fields that the patch provides. -/
def Patch.applyTo (p : Patch) (c : Company) : Company :=
  { c with
    name := p.name.getD c.name
    description := p.description.getD c.description
    employees := p.employees.getD c.employees
    registered := p.registered.getD c.registered
    legalForm := p.legalForm.getD c.legalForm }

/-- What a request to list companies asks for. The entries of `orderBy` are checked later, by the
service. -/
structure Filter where
  ids : List Uuid
  pageSize : Option UInt64
  pageNumber : Option UInt64
  orderBy : List String
  search : Option String
  legalForms : List LegalForm
  registered : Option Bool
  deriving DecidableEq

/-- The filter that asks for nothing in particular. -/
def Filter.any : Filter := ⟨[], none, none, [], none, [], none⟩

/-- A company as it is when a draft is accepted. -/
def ofDraft (id : Uuid) (now : Timestamp) (d : Draft) : Company :=
  ⟨id, now, now, d.name, d.description, d.employees, d.registered, d.legalForm⟩

/-- Companies as a kind of resource. -/
abbrev resource : Resource where
  name := "company"
  Entity := Company
  Draft := Draft
  Filter := Filter
  Patch := Patch
  Id := Uuid
  idOf := Company.id
  patched := Patch.id
  idText := Uuid.text

end Company

end Gatehouse
