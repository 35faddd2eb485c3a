import Gatehouse.Company.Error
import Gatehouse.Company.Codec

/-!
# Limits of listings

How long a page is when a request does not say, and how long it may be at most.
-/

namespace Gatehouse

/-- The limits of listings. -/
structure PagingSettings where
  standardSize : UInt64
  maxSize : UInt64
  deriving DecidableEq

namespace PagingSettings

/-- Ten companies unless requested otherwise, and never more than a hundred. -/
def standard : PagingSettings := ⟨10, 100⟩

/-- The written form. -/
def toJson (s : PagingSettings) : Json :=
  .obj [("default_page_size", Company.countJson s.standardSize),
    ("max_page_size", Company.countJson s.maxSize)]

/-- How the limits are read. -/
def form : Json.Form PagingSettings :=
  mk <$> .withDefault "default_page_size" Company.decodeCount standard.standardSize
    <*> .withDefault "max_page_size" Company.decodeCount standard.maxSize

/-- Reads the limits. -/
def decode : Json.Decoder PagingSettings := form.decode "CompaniesConfig" .refuse

/-- The standard size must be positive and must not exceed the maximum. -/
def validate (s : PagingSettings) : Except RegistryError Unit :=
  if s.standardSize = 0 then
    .error (.invalid "default_page_size" "must be greater than zero")
  else if s.maxSize < s.standardSize then
    .error (.invalid "max_page_size"
      s!"must be at least default_page_size ({s.standardSize.toNat})")
  else .ok ()

end PagingSettings

end Gatehouse
