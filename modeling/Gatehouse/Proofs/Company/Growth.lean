import Gatehouse.Proofs.Company.Pages

/-!
# Listings of a registry that grows

The identifiers that are given out only go up, and a listing without keys is ordered by identifier.
So companies that are added come after all that were there before: the listing from before is the
beginning of the listing from now on, whatever the criteria are. A page that was full stays as it
is, and who reads page after page while companies are added meets each company that was there at the
start just once.

The vocabulary is `FullListing`, the rows of which all pages are parts, `Grows`, a registry to which
companies are added, and `Walk`, a reader of page after page while this happens.
-/

namespace Gatehouse

/-! ## Beginnings of lists -/

section Beginnings

variable {α : Type} {xs ys zs : List α}

/-- Where an element is sorted in that must not stand before any of a beginning, this stays the
beginning, and the element is among the others. -/
theorem mergeSort_cons_append {le : α → α → Bool} (trans : ∀ a b c, le a b → le b c → le a c)
    (total : ∀ a b, le a b || le b a) {x : α} (hxs : xs.mergeSort le = ys ++ zs)
    (hx : ∀ y ∈ ys, le x y = false) :
    ∃ zs', (x :: xs).mergeSort le = ys ++ zs' ∧ zs'.Perm (x :: zs) := by
  obtain ⟨before, after, hsorted, hold, -⟩ := List.mergeSort_cons trans total x xs
  have hordered : (before ++ x :: after).Pairwise fun a b => le a b = true :=
    hsorted ▸ List.pairwise_mergeSort trans total (x :: xs)
  rw [hsorted]
  rw [hxs] at hold
  -- The element would stand inside the beginning only if some of it came after the element.
  rcases List.append_eq_append_iff.mp hold with ⟨between, rfl, rfl⟩ | ⟨between, rfl, rfl⟩
  · exact ⟨between ++ x :: after, List.append_assoc .., List.perm_middle⟩
  · cases between with
    | nil => exact ⟨x :: zs, by simp, .refl _⟩
    | cons y between =>
      have hle : le x y = true :=
        List.rel_of_pairwise_cons (List.pairwise_append.mp hordered).2.1 List.mem_cons_self
      rw [hx y (List.mem_append_right _ List.mem_cons_self)] at hle
      cases hle

/-- A part of a list that is as long as it may be is the same part of any list that begins with it.
-/
theorem take_drop_of_prefix {i n : Nat} (h : xs <+: ys)
    (hfull : ((xs.drop i).take n).length = n) : (ys.drop i).take n = (xs.drop i).take n := by
  obtain ⟨rest, rfl⟩ := h
  rw [List.length_take, List.length_drop] at hfull
  rcases Nat.eq_zero_or_pos n with rfl | hn
  · simp
  · rw [List.drop_append_of_le_length (by omega), List.take_append_of_le_length]
    rw [List.length_drop]
    omega

/-- A part of a list, without what it has of the end of the list. -/
theorem filter_take_drop_append {p : α → Bool} {i n : Nat} (hys : ∀ y ∈ ys, p y = true)
    (hzs : ∀ z ∈ zs, p z = false) :
    (((ys ++ zs).drop i).take n).filter p = (ys.drop i).take n := by
  have hkept : ((ys.drop i).take n).filter p = (ys.drop i).take n :=
    List.filter_eq_self.mpr fun y hy => hys y (List.mem_of_mem_drop (List.mem_of_mem_take hy))
  have hleft (j k : Nat) : ((zs.drop j).take k).filter p = [] :=
    List.filter_eq_nil_iff.mpr fun z hz => by
      simp [hzs z (List.mem_of_mem_drop (List.mem_of_mem_take hz))]
  rw [List.drop_append, List.take_append, List.filter_append, hkept, hleft, List.append_nil]

end Beginnings

namespace Registry

variable {r r' : Registry} {criteria : Criteria} {c : Company}

/-! ## Additions -/

/-- The identifier of a company is greater than all that a registry has. -/
def Exceeded (r : Registry) (c : Company) : Prop := ∀ d ∈ r.companies, d.id.bits < c.id.bits

/-- One registry has come from another by additions of companies, each with an identifier greater
than all that there were at first. An addition that is refused changes nothing. -/
inductive Grows (r : Registry) : Registry → Prop where
  | refl : Grows r r
  | insert {r' : Registry} {c : Company} : Grows r r' → r.Exceeded c →
      Grows r ((RegistryCall.insert c).perform r').2

/-- What an addition does to the stored companies. -/
theorem companies_perform_insert (r : Registry) (c : Company) :
    ((RegistryCall.insert c).perform r).2 = r ∨
      ((RegistryCall.insert c).perform r).2.companies = c :: r.companies := by
  rw [RegistryCall.perform, insert]
  by_cases h : r.contains c.id = true
  · rw [dif_pos h]
    exact .inl rfl
  · rw [dif_neg h]
    exact .inr rfl

/-- A company that comes after all of a beginning of the listing is listed among the others, if at
all. -/
theorem sorted_perform_insert {rows rest : List Company}
    (hrows : r.sorted criteria [] = rows ++ rest) (hc : ∀ d ∈ rows, d.id.bits < c.id.bits) :
    ∃ rest', ((RegistryCall.insert c).perform r).2.sorted criteria [] = rows ++ rest' ∧
      rest' ⊆ c :: rest := by
  rcases companies_perform_insert r c with hsame | hnew
  · rw [hsame]
    exact ⟨rest, hrows, List.subset_cons_self ..⟩
  rw [sorted, hnew, List.filter_cons]
  split
  · have hafter : ∀ d ∈ rows, (compareBy [] c d).isLE = false := by
      intro d hd
      have hgt : compareBy [] c d = .gt := Nat.compare_eq_gt.mpr (hc d hd)
      rw [hgt]
      rfl
    obtain ⟨rest', hsorted, hperm⟩ := mergeSort_cons_append
      (fun _ _ _ => Std.TransCmp.isLE_trans) (isLE_total []) hrows hafter
    exact ⟨rest', hsorted, hperm.subset⟩
  · exact ⟨rest, hrows, List.subset_cons_self ..⟩

theorem mem_companies_of_mem_sorted {order : List SortKey} (h : c ∈ r.sorted criteria order) :
    c ∈ r.companies :=
  List.mem_of_mem_filter (List.mem_mergeSort.mp h)

/-- **What was listed stays in front**, and all that follows it has come since. -/
theorem Grows.sorted_eq (h : r.Grows r') (criteria : Criteria) :
    ∃ rest, r'.sorted criteria [] = r.sorted criteria [] ++ rest ∧ ∀ d ∈ rest, r.Exceeded d := by
  induction h with
  | refl => exact ⟨[], (List.append_nil _).symm, nofun⟩
  | insert _ hc ih =>
    obtain ⟨rest, hsorted, hrest⟩ := ih
    obtain ⟨rest', hsorted', hsub⟩ := sorted_perform_insert hsorted fun d hd =>
      hc d (mem_companies_of_mem_sorted hd)
    refine ⟨rest', hsorted', fun d hd => ?_⟩
    rcases List.mem_cons.mp (hsub hd) with rfl | hd
    · exact hc
    · exact hrest d hd

theorem Exceeded.not_mem (h : r.Exceeded c) : c ∉ r.companies :=
  fun hc => absurd (h c hc) (BitVec.lt_irrefl _)

/-! ## Listings -/

/-- These are all rows of a listing without keys: the selected companies, ordered by identifier, of
which every page is a part. -/
structure FullListing (r : Registry) (criteria : Criteria) (rows : List Company) : Prop where
  selected : rows.Perm (r.companies.filter criteria.selects)
  ascending : rows.Pairwise fun a b => a.id.bits ≤ b.id.bits
  pages (offset limit : UInt64) : (RegistryCall.list ⟨criteria, [], offset, limit⟩).perform r =
    (.ok ((rows.drop offset.toNat).take limit.toNat), r)

theorem fullListing_sorted (r : Registry) (criteria : Criteria) :
    r.FullListing criteria (r.sorted criteria []) where
  selected := List.mergeSort_perm ..
  ascending := by
    have hsorted : (r.sorted criteria []).Pairwise (NotAfter []) := pairwise_sorted
    exact hsorted.imp fun h => Nat.isLE_compare.mp h
  pages _ _ := rfl

/-- Someone reads the pages of a listing in order, each of them from the registry as it is by then,
while companies are added whose identifiers are greater than all that there were at the start: how
many pages have been read, what the registry has become, and all rows that were on these pages. -/
inductive Walk (start : Registry) (criteria : Criteria) (limit : UInt64) :
    Nat → Registry → List Company → Prop where
  | start : Walk start criteria limit 0 start []
  | create {n : Nat} {r : Registry} {read : List Company} {c : Company} :
      Walk start criteria limit n r read → start.Exceeded c →
      Walk start criteria limit n ((RegistryCall.insert c).perform r).2 read
  | read {n : Nat} {r : Registry} {read rows : List Company} {offset : UInt64} :
      Walk start criteria limit n r read → offset.toNat = n * limit.toNat →
      (RegistryCall.list ⟨criteria, [], offset, limit⟩).perform r = (.ok rows, r) →
      Walk start criteria limit (n + 1) r (read ++ rows)

section Walks

variable {limit : UInt64} {n : Nat} {read : List Company}

theorem Walk.grows (h : r.Walk criteria limit n r' read) : r.Grows r' := by
  induction h with
  | start => exact .refl
  | create _ hc ih => exact ih.insert hc
  | read _ _ _ ih => exact ih

/-- **Each company of the start is met once, in order**, as far as the pages reach. -/
theorem Walk.met (h : r.Walk criteria limit n r' read) :
    read.filter (· ∈ r.companies) = (r.sorted criteria []).take (n * limit.toNat) := by
  induction h with
  | start => simp
  | create _ _ ih => exact ih
  | @read n s read rows offset hwalk hoffset hpage ih =>
    obtain ⟨rest, hsorted, hrest⟩ := hwalk.grows.sorted_eq criteria
    have hrows : rows = ((s.sorted criteria []).drop offset.toNat).take limit.toNat := by
      cases hpage
      rfl
    have hold : ∀ d ∈ r.sorted criteria [], decide (d ∈ r.companies) = true := fun d hd =>
      decide_eq_true (mem_companies_of_mem_sorted hd)
    have hnew : ∀ d ∈ rest, decide (d ∈ r.companies) = false := fun d hd =>
      decide_eq_false (hrest d hd).not_mem
    rw [List.filter_append, ih, hrows, hsorted, filter_take_drop_append hold hnew, hoffset,
      Nat.succ_mul, List.take_add]

/-- **Paging is stable while companies are added.** When companies come to a registry whose
identifiers are greater than all that it has, the full listing of before is the beginning of the
full listing of after, for any criteria and without keys. So a page that was full is the same page,
and whoever walks through the pages meanwhile meets the companies that were listed at the start in
their order, none of them twice, and none is missing once the pages are at least as many rows as
there were. -/
theorem paging_stable_under_growth (h : r.Grows r') (criteria : Criteria) :
    ∃ rows rows', r.FullListing criteria rows ∧ r'.FullListing criteria rows' ∧ rows <+: rows' ∧
      (∀ offset limit page,
        (RegistryCall.list ⟨criteria, [], offset, limit⟩).perform r = (.ok page, r) →
        page.length = limit.toNat →
        (RegistryCall.list ⟨criteria, [], offset, limit⟩).perform r' = (.ok page, r')) ∧
      (∀ limit n s read, r.Walk criteria limit n s read →
        read.filter (· ∈ r.companies) = rows.take (n * limit.toNat) ∧
          (rows.length ≤ n * limit.toNat → read.filter (· ∈ r.companies) = rows)) := by
  obtain ⟨rest, hsorted, -⟩ := h.sorted_eq criteria
  have hprefix : r.sorted criteria [] <+: r'.sorted criteria [] := ⟨rest, hsorted.symm⟩
  refine ⟨r.sorted criteria [], r'.sorted criteria [], fullListing_sorted .., fullListing_sorted ..,
    hprefix, fun offset limit page hpage hfull => ?_, fun limit n s read hwalk => ?_⟩
  · rw [(fullListing_sorted r criteria).pages] at hpage
    cases hpage
    rw [(fullListing_sorted r' criteria).pages, take_drop_of_prefix hprefix hfull]
  · refine ⟨hwalk.met, fun hlength => ?_⟩
    rw [hwalk.met, List.take_of_length_le hlength]

end Walks

/-- Three companies on pages of two, and two more that come between the readings of the first page
and of the second: the first page stays, and the three are met on the two pages. -/
theorem paging_stable_under_growth_five : ∃ r' read,
    Service.threeCompanies.Grows r' ∧ r'.size = 5 ∧
    Service.threeCompanies.Walk .any 2 2 r' read ∧
    (RegistryCall.list ⟨.any, [], 0, 2⟩).perform r' =
      (.ok [Service.companyNumbered 1, Service.companyNumbered 2], r') ∧
    read.filter (· ∈ Service.threeCompanies.companies) =
      [Service.companyNumbered 1, Service.companyNumbered 2, Service.companyNumbered 3] := by
  have hfive : Service.threeCompanies.Exceeded (Service.companyNumbered 5) := by
    unfold Exceeded
    decide
  have hfour : Service.threeCompanies.Exceeded (Service.companyNumbered 4) := by
    unfold Exceeded
    decide
  have hstart : Service.threeCompanies.Walk .any 2 0 Service.threeCompanies [] := .start
  have hfirst := hstart.read (show (0 : UInt64).toNat = 0 * (2 : UInt64).toNat from rfl) rfl
  have hwalk := ((hfirst.create hfive).create hfour).read
    (show (2 : UInt64).toNat = 1 * (2 : UInt64).toNat from rfl) rfl
  obtain ⟨rows, rows', hrows, hrows', -, hpages, hwalks⟩ :=
    paging_stable_under_growth hwalk.grows .any
  have hlisted : rows =
      [Service.companyNumbered 1, Service.companyNumbered 2, Service.companyNumbered 3] := by
    have hperm : rows.Perm
        [Service.companyNumbered 1, Service.companyNumbered 2, Service.companyNumbered 3] :=
      hrows.selected.trans (by decide)
    refine hperm.eq_of_pairwise (fun a b ha hb hab hba => ?_) hrows.ascending (by decide)
    have hid : a.id = b.id := Uuid.eq_of_compare (Nat.compare_eq_eq.mpr (Nat.le_antisymm hab hba))
    exact List.inj_on_of_nodup_map (by decide) (hperm.subset ha) hb hid
  subst hlisted
  refine ⟨_, _, hwalk.grows, by decide, hwalk, ?_, (hwalks 2 2 _ _ hwalk).2 (by decide)⟩
  exact hpages 0 2 _ (hrows.pages 0 2) (by decide)

end Registry

end Gatehouse
