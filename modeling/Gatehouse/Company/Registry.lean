import Gatehouse.Company.Page

/-!
# The registry

The stored companies, one per key. Whoever stores a company decides what it is like; the registry
only keeps keys apart. Each operation is one step: nothing can come between what it looks at and
what it changes.
-/

namespace Gatehouse

/-- The stored companies, each under a key of its own. -/
structure Registry where
  entries : List (Uuid × Company)
  keys_nodup : (entries.map Prod.fst).Nodup

namespace Registry

/-- The registry without companies. -/
def empty : Registry := ⟨[], by simp⟩

instance : Inhabited Registry := ⟨empty⟩

/-- The company stored under a key. -/
def find? (r : Registry) (id : Uuid) : Option Company :=
  (r.entries.find? fun e => e.1 = id).map Prod.snd

/-- Whether a key is in use. -/
def contains (r : Registry) (id : Uuid) : Bool := r.entries.any fun e => e.1 = id

/-- The stored companies. -/
def companies (r : Registry) : List Company := r.entries.map Prod.snd

/-- The number of stored companies. -/
def size (r : Registry) : Nat := r.entries.length

/-- A key that is not in use is not among the keys. -/
theorem not_mem_of_contains_eq_false {r : Registry} {id : Uuid} (h : ¬r.contains id = true) :
    id ∉ r.entries.map Prod.fst := by
  intro hmem
  obtain ⟨e, he, rfl⟩ := List.mem_map.1 hmem
  exact h (List.any_eq_true.2 ⟨e, he, by simp⟩)

/-- The entries with another company under one of the keys. -/
def overwrite (id : Uuid) (c : Company) (entries : List (Uuid × Company)) :
    List (Uuid × Company) :=
  entries.map fun e => if e.1 = id then (e.1, c) else e

theorem map_fst_overwrite (id : Uuid) (c : Company) (entries : List (Uuid × Company)) :
    (overwrite id c entries).map Prod.fst = entries.map Prod.fst := by
  induction entries with
  | nil => rfl
  | cons e es ih =>
    simp only [overwrite, List.map_cons, List.map_map] at ih ⊢
    rw [ih]
    split <;> rfl

/-- Stores a new company under its identifier, which must not be in use. -/
def insert (r : Registry) (c : Company) : Except RegistryError Registry :=
  if h : r.contains c.id then .error (.invalid "id" "company with this id already exists")
  else .ok ⟨(c.id, c) :: r.entries, by
    simpa using ⟨by simpa using not_mem_of_contains_eq_false h, r.keys_nodup⟩⟩

/-- Stores a company in place of the one under its identifier; there must be one. -/
def replace (r : Registry) (c : Company) : Except RegistryError Registry :=
  if r.contains c.id then
    .ok ⟨overwrite c.id c r.entries, by rw [map_fst_overwrite]; exact r.keys_nodup⟩
  else .error (.notFound c.id)

/-- The registry without the company under a key. -/
def erase (r : Registry) (id : Uuid) : Registry :=
  ⟨r.entries.filter fun e => e.1 ≠ id,
    (List.Sublist.map Prod.fst (List.filter_sublist (l := r.entries))).nodup r.keys_nodup⟩

/-- The selected companies in order. -/
def sorted (r : Registry) (criteria : Criteria) (order : List SortKey) : List Company :=
  (r.companies.filter criteria.selects).mergeSort fun a b => (compareBy order a b).isLE

/-- The companies of a page. -/
def page (r : Registry) (p : Page) : List Company :=
  ((r.sorted p.criteria p.order).drop p.offset.toNat).take p.limit.toNat

/-- The number of selected companies. -/
def count (r : Registry) (criteria : Criteria) : Nat :=
  (r.companies.filter criteria.selects).length

end Registry

end Gatehouse
