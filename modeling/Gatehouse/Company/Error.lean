import Gatehouse.Company.Basic

/-!
# Errors of the registry

What can go wrong with companies: there is none with the identifier, a field is not acceptable, or
the storage fails.
-/

namespace Gatehouse

/-- Why the registry cannot do what it was asked for. -/
inductive RegistryError where
  | notFound (id : Uuid)
  | invalid (field message : String)
  | storage (message : String)
  deriving DecidableEq

namespace RegistryError

/-- What an error of the registry says. -/
def message : RegistryError → String
  | notFound id => s!"Company not found: {id.text}"
  | invalid field message => s!"Validation failed: {field}: {message}"
  | storage message => s!"Storage error: {message}"

end RegistryError

end Gatehouse
