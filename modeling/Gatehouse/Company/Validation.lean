import Gatehouse.Company.Basic
import Gatehouse.Company.Error

/-!
# Validating payloads

What a company's name, description and number of employees must be like. Lengths count characters.
A draft is checked whole; of a patch only what it provides is checked. The first field that is not
acceptable, in a fixed order, is the one reported.
-/

namespace Gatehouse.Company

/-- Characters that a name may have. -/
def maxNameLength : Nat := 15

/-- Characters that a description may have. -/
def maxDescriptionLength : Nat := 3000

/-- A name has at least one character, and no more than the limit. -/
def checkName (name : String) : Except RegistryError Unit :=
  if name.isEmpty then .error (.invalid "name" "cannot be blank")
  else if maxNameLength < name.length then
    .error (.invalid "name" s!"the length must be between 1 and {maxNameLength}")
  else .ok ()

/-- A description has no more characters than the limit. -/
def checkDescription (description : String) : Except RegistryError Unit :=
  if maxDescriptionLength < description.length then
    .error (.invalid "description" s!"the length must be no more than {maxDescriptionLength}")
  else .ok ()

/-- A number of employees is anything but zero. -/
def checkEmployees (employees : Int32) : Except RegistryError Unit :=
  if employees = 0 then .error (.invalid "amount_of_employees" "cannot be blank") else .ok ()

/-- Runs a check on what is provided. -/
def checkProvided (check : α → Except RegistryError Unit) : Option α → Except RegistryError Unit
  | none => .ok ()
  | some a => check a

/-- All fields of a draft. -/
def Draft.validate (d : Draft) : Except RegistryError Unit := do
  checkName d.name
  checkDescription d.description
  checkEmployees d.employees

/-- The identifier of a patch and all fields that it provides. -/
def Patch.validate (p : Patch) : Except RegistryError Unit := do
  if p.id.isNil then .error (.invalid "id" "cannot be blank")
  checkProvided checkName p.name
  checkProvided checkDescription p.description
  checkProvided checkEmployees p.employees

/-- A company's fields as a draft would give them. -/
def toDraft (c : Company) : Draft :=
  ⟨c.name, c.description, c.employees, c.registered, c.legalForm⟩

end Gatehouse.Company
