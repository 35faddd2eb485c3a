import Gatehouse.Company.Criteria
import Gatehouse.Company.Order
import Gatehouse.Company.Paging

/-!
# Pages

A request for a page with everything decided: which companies, in which order, how many to skip and
how many to take. Pages count from one; a page number of zero means the first page.
-/

namespace Gatehouse

/-- A page of a listing. -/
structure Page where
  criteria : Criteria
  order : List SortKey
  offset : UInt64
  limit : UInt64
  deriving DecidableEq

namespace Page

/-- The product, or the greatest 64-bit number if that is less. -/
def saturatingMul (a b : UInt64) : UInt64 :=
  if a.toNat * b.toNat < 0x10000000000000000 then a * b else UInt64.ofNat 0xFFFFFFFFFFFFFFFF

/-- How many companies a page holds: as many as requested, but no more than the maximum. -/
def limitOf (s : PagingSettings) (requested : Option UInt64) : Except RegistryError UInt64 :=
  match requested with
  | some size =>
    if size = 0 then .error (.invalid "page_size" "must be greater than zero")
    else .ok (min size s.maxSize)
  | none => .ok s.standardSize

/-- How many companies stand before a page. -/
def offsetOf (limit : UInt64) (number : Option UInt64) : UInt64 :=
  match number with
  | some n => if 1 < n then saturatingMul (n - 1) limit else 0
  | none => 0

/-- Decides everything about the page that a filter asks for. -/
def ofFilter (s : PagingSettings) (f : Company.Filter) : Except RegistryError Page := do
  let limit ← limitOf s f.pageSize
  let order ← SortKey.parseAll f.orderBy
  pure ⟨.ofFilter f, order, offsetOf limit f.pageNumber, limit⟩

end Page

end Gatehouse
