import Gatehouse.Proofs.Company.Sorting
import Mathlib.Data.String.Basic

/-!
# The one arrangement of a listing

What it means for one company to stand before another is said here without comparing: some key puts it
there and the keys before this one hold the two level, or all keys do and its identifier is the lesser.
Comparing by a list of keys decides just that, for companies with different identifiers one of the two
stands before the other, and so the selected companies have one arrangement. It is what is listed, in
whatever order the registry comes upon its rows.

The vocabulary is `SortField.Less` and `SortField.Level`, what a column says about two companies,
`Precedes`, and `Registry.Arranged`.
-/

namespace Gatehouse

/-! ## Columns -/

namespace SortField

variable {a b : Company}

/-- The value of the first company in a column is less. -/
def Less (f : SortField) (a b : Company) : Prop :=
  match f with
  | id => a.id.bits < b.id.bits
  | updatedAt => a.updatedAt.instant < b.updatedAt.instant
  | createdAt => a.createdAt.instant < b.createdAt.instant
  | name => a.name < b.name
  | description => a.description < b.description
  | employees => a.employees < b.employees
  | registered => a.registered = false ∧ b.registered = true
  | legalForm => a.legalForm.code < b.legalForm.code

/-- Two companies have the same value in a column. Moments are the same if they are the same instant,
whatever the offset is by which they are told. -/
def Level (f : SortField) (a b : Company) : Prop :=
  match f with
  | id => a.id = b.id
  | updatedAt => a.updatedAt.instant = b.updatedAt.instant
  | createdAt => a.createdAt.instant = b.createdAt.instant
  | name => a.name = b.name
  | description => a.description = b.description
  | employees => a.employees = b.employees
  | registered => a.registered = b.registered
  | legalForm => a.legalForm = b.legalForm

theorem compare_eq_lt_iff {f : SortField} : f.compare a b = .lt ↔ f.Less a b := by
  cases f with
  | id => exact Nat.compare_eq_lt
  | updatedAt => exact Int.compare_eq_lt
  | createdAt => exact Int.compare_eq_lt
  | name => exact compare_lt_iff_lt
  | description => exact compare_lt_iff_lt
  | employees => exact Int.compare_eq_lt.trans Int32.lt_iff_toInt_lt.symm
  | registered =>
    simp only [compare, Less]
    cases a.registered <;> cases b.registered <;> decide
  | legalForm => exact Nat.compare_eq_lt

theorem compare_eq_eq_iff {f : SortField} : f.compare a b = .eq ↔ f.Level a b := by
  cases f with
  | id => exact ⟨Uuid.eq_of_compare, fun h => by simp [compare, show a.id = b.id from h]⟩
  | updatedAt => exact Int.compare_eq_eq
  | createdAt => exact Int.compare_eq_eq
  | name => exact compare_eq_iff_eq
  | description => exact compare_eq_iff_eq
  | employees => exact Int.compare_eq_eq.trans Int32.toInt_inj
  | registered => exact compare_eq_iff_eq
  | legalForm =>
    simp only [compare, Level]
    cases a.legalForm <;> cases b.legalForm <;> decide

end SortField

/-! ## Lists of keys -/

section Keys

variable {k : SortKey} {order : List SortKey} {a b : Company}

/-- A key puts one company before another. -/
def SortKey.Puts (k : SortKey) (a b : Company) : Prop :=
  if k.descending then k.field.Less b a else k.field.Less a b

/-- One company stands before another: some key puts it there and all keys before this one hold the two
level, or all keys do and its identifier is less. -/
def Precedes (order : List SortKey) (a b : Company) : Prop :=
  (∃ before k after, order = before ++ k :: after ∧ (∀ j ∈ before, j.field.Level a b) ∧ k.Puts a b) ∨
    ((∀ j ∈ order, j.field.Level a b) ∧ a.id.bits < b.id.bits)

theorem SortKey.compare_eq_lt_iff : k.compare a b = .lt ↔ k.Puts a b := by
  by_cases hk : k.descending = true
  · rw [compare_eq, Puts, if_pos hk, if_pos hk, SortField.compare_eq_lt_iff]
  · rw [compare_eq, Puts, if_neg hk, if_neg hk, SortField.compare_eq_lt_iff]

theorem SortKey.compare_eq_eq_iff : k.compare a b = .eq ↔ k.field.Level a b := by
  rw [compare, ← SortField.compare_eq_eq_iff]
  split
  · cases k.field.compare a b <;> decide
  · rfl

theorem precedes_nil : Precedes [] a b ↔ a.id.bits < b.id.bits := by
  simp [Precedes]

/-- The first key decides unless it holds the two level. -/
theorem precedes_cons :
    Precedes (k :: order) a b ↔ k.Puts a b ∨ (k.field.Level a b ∧ Precedes order a b) := by
  constructor
  · rintro (⟨before, j, after, horder, hlevel, hputs⟩ | ⟨hlevel, hid⟩)
    · cases before with
      | nil =>
        cases horder
        exact .inl hputs
      | cons i before =>
        cases horder
        rw [List.forall_mem_cons] at hlevel
        exact .inr ⟨hlevel.1, .inl ⟨before, j, after, rfl, hlevel.2, hputs⟩⟩
    · rw [List.forall_mem_cons] at hlevel
      exact .inr ⟨hlevel.1, .inr ⟨hlevel.2, hid⟩⟩
  · rintro (hputs | ⟨hfirst, ⟨before, j, after, rfl, hlevel, hputs⟩ | ⟨hlevel, hid⟩⟩)
    · exact .inl ⟨[], k, order, rfl, nofun, hputs⟩
    · exact .inl ⟨k :: before, j, after, rfl, List.forall_mem_cons.mpr ⟨hfirst, hlevel⟩, hputs⟩
    · exact .inr ⟨List.forall_mem_cons.mpr ⟨hfirst, hlevel⟩, hid⟩

/-- Comparing by keys decides which of two companies stands before the other. -/
theorem compareBy_eq_lt_iff : compareBy order a b = .lt ↔ Precedes order a b := by
  induction order with
  | nil => exact Nat.compare_eq_lt.trans precedes_nil.symm
  | cons k order ih =>
    rw [compareBy, Ordering.then_eq_lt, SortKey.compare_eq_lt_iff, SortKey.compare_eq_eq_iff, ih,
      precedes_cons]

/-- Comparing by an order is a strict total order on some companies. -/
structure StrictlyOrders (order : List SortKey) (rows : List Company) : Prop where
  refl : ∀ a, compareBy order a a = .eq
  antisymm : ∀ a b, compareBy order a b = .lt ↔ compareBy order b a = .gt
  trans : ∀ a b c, compareBy order a b = .lt → compareBy order b c = .lt → compareBy order a c = .lt
  total : ∀ a ∈ rows, ∀ b ∈ rows, a ≠ b → compareBy order a b = .lt ∨ compareBy order b a = .lt

/-- Companies with different identifiers are told apart by whatever order. -/
theorem strictlyOrders {rows : List Company} (hids : (rows.map Company.id).Nodup) :
    StrictlyOrders order rows where
  refl _ := Std.ReflCmp.compare_self
  antisymm _ _ := Std.OrientedCmp.gt_iff_lt.symm
  trans _ _ _ := Std.TransCmp.lt_trans
  total a ha b hb hne := by
    cases h : compareBy order a b with
    | lt => exact .inl rfl
    | gt => exact .inr (Std.OrientedCmp.gt_iff_lt.mp h)
    | eq => exact absurd (List.inj_on_of_nodup_map hids ha hb (id_eq_of_compareBy h)) hne

end Keys

/-! ## Listings -/

namespace Registry

variable {r r' : Registry} {criteria : Criteria} {order : List SortKey} {rows : List Company}

/-- These are the selected companies of a registry, each of them once, and each stands before all that
follow it. -/
structure Arranged (r : Registry) (criteria : Criteria) (order : List SortKey) (rows : List Company) :
    Prop where
  mem_iff : ∀ c, c ∈ rows ↔ c ∈ r.companies ∧ criteria.selects c = true
  nodup : rows.Nodup
  ascending : rows.Pairwise (Precedes order)

/-- There are not two arrangements of one listing. -/
theorem Arranged.unique {rows' : List Company} (h : r.Arranged criteria order rows)
    (h' : r.Arranged criteria order rows') : rows = rows' := by
  have hperm : rows.Perm rows' := by
    refine (List.perm_ext_iff_of_nodup h.nodup h'.nodup).mpr fun c => ?_
    rw [h.mem_iff, h'.mem_iff]
  refine hperm.eq_of_pairwise (fun a b _ _ hab hba => ?_) h.ascending h'.ascending
  rw [← compareBy_eq_lt_iff] at hab hba
  rw [← Std.OrientedCmp.gt_iff_lt, hab] at hba
  cases hba

/-- What is listed is the arrangement, if no two companies have one identifier. -/
theorem arranged_sorted (hids : (r.companies.map Company.id).Nodup) :
    r.Arranged criteria order (r.sorted criteria order) := by
  have hperm : (r.sorted criteria order).Perm (r.companies.filter criteria.selects) :=
    List.mergeSort_perm ..
  have hsorted : ((r.sorted criteria order).map Company.id).Nodup := by
    rw [(hperm.map Company.id).nodup_iff]
    exact hids.sublist (List.filter_sublist.map Company.id)
  refine ⟨fun c => ?_, hsorted.of_map, ?_⟩
  · rw [hperm.mem_iff, List.mem_filter]
  · -- two neighbours that may stand in this order have different identifiers
    refine (pairwise_sorted.and (List.pairwise_map.mp hsorted)).imp ?_
    rintro a b ⟨hle, hne⟩
    rw [← compareBy_eq_lt_iff]
    cases h : compareBy order a b with
    | lt => rfl
    | eq => exact absurd (id_eq_of_compareBy h) hne
    | gt => rw [NotAfter, h] at hle; cases hle

theorem Arranged.of_perm (h : r.Arranged criteria order rows)
    (hperm : r'.companies.Perm r.companies) : r'.Arranged criteria order rows :=
  ⟨fun c => by rw [hperm.mem_iff]; exact h.mem_iff c, h.nodup, h.ascending⟩

/-- **The order of a listing is canonical.** In a registry whose companies have different identifiers,
comparing by any list of keys is a strict total order on the rows, the lexicographic order of the keys
with ties broken by the identifier. So the selected companies have one arrangement, and what is listed
is this one from an offset up to a limit, in whatever order the registry holds its rows. -/
theorem listing_canonical (hids : (r.companies.map Company.id).Nodup) (criteria : Criteria)
    (order : List SortKey) :
    StrictlyOrders order r.companies ∧
    (∀ a b, compareBy order a b = .lt ↔ Precedes order a b) ∧
    ∃ rows, (∀ rows', r.Arranged criteria order rows' ↔ rows' = rows) ∧
      ∀ r' : Registry, r'.companies.Perm r.companies →
        (∀ offset limit, (RegistryCall.list ⟨criteria, order, offset, limit⟩).perform r' =
          (.ok ((rows.drop offset.toNat).take limit.toNat), r')) ∧
        ∀ limit : UInt64, rows.length ≤ limit.toNat →
          (RegistryCall.list ⟨criteria, order, 0, limit⟩).perform r' = (.ok rows, r') := by
  have hlisted : r.Arranged criteria order (r.sorted criteria order) := arranged_sorted hids
  refine ⟨strictlyOrders hids, fun _ _ => compareBy_eq_lt_iff, r.sorted criteria order,
    fun rows' => ⟨fun h => h.unique hlisted, ?_⟩, fun r' hperm => ?_⟩
  · rintro rfl
    exact hlisted
  have hids' : (r'.companies.map Company.id).Nodup := by
    rwa [(hperm.map Company.id).nodup_iff]
  have hsame : r'.sorted criteria order = r.sorted criteria order :=
    (arranged_sorted hids').unique (hlisted.of_perm hperm)
  have hpage : ∀ offset limit, (RegistryCall.list ⟨criteria, order, offset, limit⟩).perform r' =
      (.ok (((r.sorted criteria order).drop offset.toNat).take limit.toNat), r') := by
    intro offset limit
    rw [← hsame]
    rfl
  refine ⟨hpage, fun limit hlimit => ?_⟩
  rw [hpage]
  simp [List.take_of_length_le hlimit]

/-- A company with a given identifier and name. -/
def companyNamed (n : Nat) (name : String) : Company :=
  { (default : Company) with id := .ofNat n, name := name }

/-- The registry with three companies of which two have the same name. -/
def namesakes : Registry :=
  ⟨[(3, "b"), (1, "a"), (2, "b")].map fun e => (.ofNat e.1, companyNamed e.1 e.2), by decide⟩

/-- Where the second key contradicts the first it says nothing: companies of one name stand by their
identifiers, in whatever order they are held. -/
theorem listing_canonical_contradictory :
    (namesakes.companies.map Company.id).Nodup ∧
    ∀ r : Registry, r.companies.Perm namesakes.companies →
      (RegistryCall.list ⟨.any, [⟨.name, true⟩, ⟨.name, false⟩], 0, 10⟩).perform r =
        (.ok [companyNamed 2 "b", companyNamed 3 "b", companyNamed 1 "a"], r) := by
  have hids : (namesakes.companies.map Company.id).Nodup := by decide
  obtain ⟨-, hprecedes, rows, hrows, hlisted⟩ :=
    listing_canonical hids .any [⟨.name, true⟩, ⟨.name, false⟩]
  have harranged : namesakes.Arranged .any [⟨.name, true⟩, ⟨.name, false⟩]
      [companyNamed 2 "b", companyNamed 3 "b", companyNamed 1 "a"] := by
    refine ⟨fun c => ?_, by decide, ?_⟩
    · have hperm : [companyNamed 2 "b", companyNamed 3 "b", companyNamed 1 "a"].Perm
          namesakes.companies := by decide
      have hany : Criteria.any.selects c = true := rfl
      rw [hperm.mem_iff, hany]
      simp
    · have hlt : [companyNamed 2 "b", companyNamed 3 "b", companyNamed 1 "a"].Pairwise fun a b =>
          compareBy [⟨.name, true⟩, ⟨.name, false⟩] a b = .lt := by decide
      exact hlt.imp fun h => (hprecedes _ _).mp h
  obtain rfl := (hrows _).mp harranged
  exact ⟨hids, fun r hperm => (hlisted r hperm).2 10 (by decide)⟩

end Registry

end Gatehouse
