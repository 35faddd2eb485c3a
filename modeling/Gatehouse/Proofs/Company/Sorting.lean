import Gatehouse.Proofs.Company.Rows
import Mathlib.Data.List.Nodup

/-!
# Orders of listings are total

Whatever the keys of an order are, it is transitive, and it tells any two companies with different
identifiers apart. So the selected rows of a registry can be put in order in one way only, which
does not depend on how they came to be stored.
-/

namespace Gatehouse

/-! ## Comparing companies -/

instance : Std.TransOrd Uuid :=
  inferInstanceAs (Std.TransCmp (compareOn fun u : Uuid => u.bits.toNat))

instance : Std.TransOrd Timestamp :=
  inferInstanceAs (Std.TransCmp (compareOn Timestamp.instant))

instance : Std.TransOrd LegalForm :=
  inferInstanceAs (Std.TransCmp (compareOn LegalForm.code))

theorem Uuid.eq_of_compare {a b : Uuid} (h : compare a b = .eq) : a = b := by
  obtain ⟨a⟩ := a
  obtain ⟨b⟩ := b
  have hbits : a.toNat = b.toNat := Nat.compare_eq_eq.mp h
  rw [BitVec.eq_of_toNat_eq hbits]

instance (f : SortField) : Std.TransCmp f.compare :=
  match f with
  | .id => inferInstanceAs (Std.TransCmp (compareOn Company.id))
  | .updatedAt => inferInstanceAs (Std.TransCmp (compareOn Company.updatedAt))
  | .createdAt => inferInstanceAs (Std.TransCmp (compareOn Company.createdAt))
  | .name => inferInstanceAs (Std.TransCmp (compareOn Company.name))
  | .description => inferInstanceAs (Std.TransCmp (compareOn Company.description))
  | .employees => inferInstanceAs (Std.TransCmp (compareOn fun c : Company => c.employees.toInt))
  | .registered => inferInstanceAs (Std.TransCmp (compareOn Company.registered))
  | .legalForm => inferInstanceAs (Std.TransCmp (compareOn Company.legalForm))

/-- The opposite direction is the direction the other way round. -/
theorem SortKey.compare_eq (k : SortKey) :
    k.compare = if k.descending then fun a b => k.field.compare b a else k.field.compare := by
  funext a b
  by_cases hk : k.descending = true
  · rw [compare, if_pos hk, if_pos hk, ← Std.OrientedCmp.eq_swap]
  · rw [compare, if_neg hk, if_neg hk]

instance (k : SortKey) : Std.TransCmp k.compare := by
  rw [SortKey.compare_eq]
  split <;> infer_instance

instance (order : List SortKey) : Std.TransCmp (compareBy order) := by
  induction order with
  | nil => exact inferInstanceAs (Std.TransCmp (compareOn Company.id))
  | cons k ks ih => exact inferInstanceAs (Std.TransCmp (compareLex k.compare (compareBy ks)))

/-- Companies that an order holds equal have one identifier. -/
theorem id_eq_of_compareBy {order : List SortKey} {a b : Company}
    (h : compareBy order a b = .eq) : a.id = b.id := by
  induction order with
  | nil => exact Uuid.eq_of_compare h
  | cons k ks ih => exact ih (Ordering.then_eq_eq.mp h).2

/-- One of two companies may stand before the other. -/
theorem isLE_total (order : List SortKey) (a b : Company) :
    (compareBy order a b).isLE || (compareBy order b a).isLE := by
  have hswap : compareBy order b a = (compareBy order a b).swap := Std.OrientedCmp.eq_swap
  rw [hswap]
  cases compareBy order a b <;> rfl

/-- Whether one company may stand before another. -/
def NotAfter (order : List SortKey) (a b : Company) : Prop := (compareBy order a b).isLE = true

theorem id_eq_of_notAfter {order : List SortKey} {a b : Company} (hab : NotAfter order a b)
    (hba : NotAfter order b a) : a.id = b.id :=
  id_eq_of_compareBy (Std.OrientedCmp.isLE_antisymm hab hba)

namespace Registry

variable {r : Registry} {criteria : Criteria} {order : List SortKey} {c : Company} {id : Uuid}

/-! ## The rows of a registry -/

theorem find?_eq_some_iff : r.find? id = some c ↔ (id, c) ∈ r.entries := by
  obtain ⟨entries, hnodup⟩ := r
  show (entries.find? fun e => decide (e.1 = id)).map Prod.snd = some c ↔ (id, c) ∈ entries
  induction entries with
  | nil => simp
  | cons e es ih =>
    obtain ⟨hfresh, hes⟩ := List.nodup_cons.mp hnodup
    by_cases he : e.1 = id
    · have hnone : (id, c) ∉ es := fun hmem => hfresh (he ▸ List.mem_map_of_mem hmem)
      simp [he, hnone, Prod.ext_iff, eq_comm]
    · rw [List.find?_cons_of_neg (by simpa using he), ih hes]
      simp [Prod.ext_iff, Ne.symm he]

theorem Keyed.mem_companies (hr : r.Keyed) : c ∈ r.companies ↔ r.find? c.id = some c := by
  rw [find?_eq_some_iff, companies, List.mem_map]
  constructor
  · rintro ⟨⟨id, c'⟩, he, rfl⟩
    rwa [hr id c' (find?_eq_some_iff.mpr he)]
  · intro he
    exact ⟨_, he, rfl⟩

theorem Keyed.ids_nodup (hr : r.Keyed) : (r.companies.map Company.id).Nodup := by
  have hids : r.companies.map Company.id = r.entries.map Prod.fst := by
    rw [companies, List.map_map]
    refine List.map_congr_left fun e he => ?_
    exact hr e.1 e.2 (find?_eq_some_iff.mpr he)
  rw [hids]
  exact r.keys_nodup

/-! ## Sorted rows -/

theorem length_sorted : (r.sorted criteria order).length = r.count criteria := by
  rw [sorted, List.length_mergeSort, count]

theorem length_sorted_le (r : Registry) (criteria : Criteria) (order : List SortKey) :
    (r.sorted criteria order).length ≤ r.size := by
  rw [length_sorted, count, size, ← List.length_map (f := Prod.snd)]
  exact List.length_filter_le _ _

theorem pairwise_sorted : (r.sorted criteria order).Pairwise (NotAfter order) :=
  List.pairwise_mergeSort (fun _ _ _ => Std.TransCmp.isLE_trans) (isLE_total order) _

theorem Keyed.mem_sorted (hr : r.Keyed) : c ∈ r.sorted criteria order ↔
    r.find? c.id = some c ∧ criteria.selects c = true := by
  rw [sorted, List.mem_mergeSort, List.mem_filter, hr.mem_companies]

theorem Keyed.nodup_sorted (hr : r.Keyed) :
    ((r.sorted criteria order).map Company.id).Nodup := by
  have hperm := (List.mergeSort_perm (r.companies.filter criteria.selects) fun a b =>
    (compareBy order a b).isLE).map Company.id
  rw [sorted, hperm.nodup_iff]
  exact hr.ids_nodup.sublist (List.filter_sublist.map Company.id)

end Registry

end Gatehouse
