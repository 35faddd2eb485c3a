import Gatehouse.Proofs.Company.Ledger

/-!
# The pages of a listing

A listing has one list of rows, the selected companies in order, and its pages cut this list into
parts of one size. Page numbers and sizes are 64-bit numbers, and how many rows stand before a page
is a product that stays at the end of the range when it leaves it. This shows in no page: a registry
holds fewer companies than that.

The vocabulary is `cut`, the part of a list with a given number, `Service.Returns`, what a call on
the store can only return, and `Service.Paged`, what the pages of a listing have to do with its rows.
-/

namespace Gatehouse

/-! ## Cutting a list into parts -/

/-- The part of a list with a given number, counted from one, when all parts but the last have one
size: from position `(n - 1) * size` up to position `n * size`, which is not in it. -/
def cut {α : Type} (rows : List α) (size n : Nat) : List α :=
  rows.extract ((n - 1) * size) (n * size)

section Cut

variable {α : Type} {rows : List α} {size n : Nat}

theorem cut_eq (hn : 1 ≤ n) : cut rows size n = (rows.drop ((n - 1) * size)).take size := by
  have hwidth : n * size - (n - 1) * size = size := by
    rw [← Nat.sub_mul, Nat.sub_sub_self hn, Nat.one_mul]
  rw [cut, List.extract_eq_take_drop, hwidth]

theorem cut_of_past (h : rows.length ≤ (n - 1) * size) : cut rows size n = [] := by
  rw [cut, List.extract_eq_take_drop, List.drop_eq_nil_of_le h, List.take_nil]

/-- Parts that follow each other from the first on are the beginning of the list. -/
theorem flatMap_cut (rows : List α) (size k : Nat) :
    (List.range' 1 k).flatMap (cut rows size) = rows.take (k * size) := by
  induction k with
  | zero => simp
  | succ k ih =>
    have hnext : cut rows size (1 + k) = (rows.drop (k * size)).take size := by
      rw [cut_eq (Nat.le_add_right 1 k), Nat.add_sub_cancel_left]
    rw [List.range'_1_concat, List.flatMap_append, ih, List.flatMap_singleton, hnext, Nat.succ_mul,
      List.take_add]

end Cut

/-! ## Sizes and offsets -/

namespace Page

variable {s : PagingSettings} {limit : UInt64}

/-- With sound settings a page has room for one row at least, and for no more than they allow. -/
theorem limit_bounds {requested : Option UInt64} (hs : s.validate = .ok ())
    (h : limitOf s requested = .ok limit) : 1 ≤ limit.toNat ∧ limit.toNat ≤ s.maxSize.toNat := by
  have hstandard : 1 ≤ s.standardSize.toNat ∧ s.standardSize.toNat ≤ s.maxSize.toNat := by
    simp only [PagingSettings.validate] at hs
    split at hs
    · cases hs
    split at hs
    · cases hs
    rename_i hzero hmax
    rw [← UInt64.toNat_inj] at hzero
    rw [UInt64.lt_iff_toNat_lt] at hmax
    exact ⟨Nat.one_le_iff_ne_zero.mpr hzero, Nat.le_of_not_lt hmax⟩
  cases requested with
  | none =>
    cases h
    exact hstandard
  | some size =>
    simp only [limitOf] at h
    split at h
    · cases h
    rename_i hzero
    rw [← UInt64.toNat_inj] at hzero
    cases h
    rw [UInt64.toNat_min]
    have hsize : 1 ≤ size.toNat := Nat.one_le_iff_ne_zero.mpr hzero
    omega

theorem toNat_saturatingMul (a b : UInt64) :
    (saturatingMul a b).toNat = min (a.toNat * b.toNat) 0xFFFFFFFFFFFFFFFF := by
  unfold saturatingMul
  split
  case isTrue h =>
    rw [UInt64.toNat_mul, Nat.mod_eq_of_lt h]
    omega
  case isFalse h =>
    show 0xFFFFFFFFFFFFFFFF = _
    omega

/-- As many rows stand before a page as on the pages before it, or as many as can be counted. The
page with the number zero is the first one. -/
theorem toNat_offsetOf (limit n : UInt64) :
    (offsetOf limit (some n)).toNat = min ((n.toNat - 1) * limit.toNat) 0xFFFFFFFFFFFFFFFF := by
  simp only [offsetOf]
  split
  case isTrue h =>
    rw [toNat_saturatingMul, UInt64.toNat_sub_of_le _ _ (UInt64.le_of_lt h)]
    rfl
  case isFalse h =>
    rw [UInt64.lt_iff_toNat_lt] at h
    have hn : n.toNat - 1 = 0 := Nat.sub_eq_zero_of_le (Nat.le_of_not_lt h)
    simp [hn]

end Page

/-! ## Calls in front of a registry -/

namespace Service

variable {s : PagingSettings} {f : Company.Filter} {page : Page} {r : Registry} {α : Type}

/-- A call in front of a registry can be carried out, and however it is, whoever else is asked, it ends
with this and leaves the registry as it is. -/
structure Returns (r : Registry) (call : Part α) (x : Except Failure α) : Prop where
  possible : ∃ u, Program.Ends call.run u x ∧ Leads Registry.Step r u r
  only : ∀ u y r', Program.Ends call.run u y → Leads Registry.Step r u r' → r' = r ∧ y = x

/-- The answers of the registry alone decide what a call ends with if they do so in every run, as there
is one. -/
theorem Returns.of_effect {call : Part α} {x : Except Failure α}
    (h : ∀ u y r', Program.Ends call.run u y → Leads Registry.Step r u r' → r' = r ∧ y = x) :
    Returns r call x := by
  have hends := call.run.ends_walk (Registry.answer Traffic.calm) r
  have hlead := (call.run.leads_walk (Registry.answer Traffic.calm) r).mono
    fun _ _ _ => Registry.step_of_answer
  obtain ⟨hr, hx⟩ := h _ _ _ hends hlead
  rw [hx] at hends
  rw [hr] at hlead
  exact ⟨⟨_, hends, hlead⟩, h⟩

theorem returns_list (hpage : Page.ofFilter s f = .ok page) :
    Returns r (list s f) (.ok (r.page page)) := by
  refine .of_effect fun u y r' hu hr => ?_
  obtain ⟨rfl, rfl⟩ := list_effect hu hr
  rw [hpage]
  exact ⟨rfl, rfl⟩

theorem returns_count : Returns r (count f) (.ok (r.count (.ofFilter f))) :=
  .of_effect fun _ _ _ => count_effect

end Service

/-! ## Pages -/

namespace Registry

variable {page : Page} {r : Registry}

/-- Where the offset has stayed at the end of the range there are no rows any more. -/
theorem page_eq_cut {n : Nat} (hr : r.size < 0xFFFFFFFFFFFFFFFF) (hn : 1 ≤ n)
    (hoffset : page.offset.toNat = min ((n - 1) * page.limit.toNat) 0xFFFFFFFFFFFFFFFF) :
    r.page page = cut (r.sorted page.criteria page.order) page.limit.toNat n := by
  have hlength := r.length_sorted_le page.criteria page.order
  rw [Registry.page, hoffset, cut_eq hn]
  rcases Nat.le_total ((n - 1) * page.limit.toNat) 0xFFFFFFFFFFFFFFFF with hle | hge
  · rw [Nat.min_eq_left hle]
  · rw [Nat.min_eq_right hge, List.drop_eq_nil_of_le (by omega), List.drop_eq_nil_of_le (by omega)]

end Registry

namespace Service

variable {s : PagingSettings} {f : Company.Filter} {page : Page} {r : Registry}

/-- A filter with another page number. -/
def atPage (f : Company.Filter) (number : Option UInt64) : Company.Filter :=
  { f with pageNumber := number }

/-- These are the rows of a listing and its pages cut them into parts: what each page holds, and what
is counted whatever the page is. -/
structure Paged (s : PagingSettings) (f : Company.Filter) (r : Registry) (order : List SortKey)
    (size : Nat) (rows : List Company) : Prop where
  /-- Every selected company of the registry is there just once. -/
  selected : rows.Perm (r.companies.filter (Criteria.ofFilter f).selects)
  ordered : rows.Pairwise (NotAfter order)
  /-- There is no other such list if the registry has its companies under their identifiers. -/
  only : r.Keyed → ∀ rows', Lists r.find? (.ofFilter f) order rows' ↔ rows' = rows
  listed (n : UInt64) : 1 ≤ n.toNat →
    Returns r (list s (atPage f (some n))) (.ok (cut rows size n.toNat))
  first (number : Option UInt64) : number = none ∨ number = some 0 →
    Returns r (list s (atPage f number)) (.ok (cut rows size 1))
  counted (number : Option UInt64) : Returns r (count (atPage f number)) (.ok rows.length)
  /-- The pages in a row are the rows again, and those after the last row are empty. -/
  joined (k : Nat) : rows.length ≤ k * size → (List.range' 1 k).flatMap (cut rows size) = rows
  past (n : Nat) : rows.length ≤ (n - 1) * size → cut rows size n = []

/-- A filter with another page number asks for another part of the same rows. -/
theorem returns_cut {number : Option UInt64} {n : Nat} (hr : r.size < 0xFFFFFFFFFFFFFFFF)
    (hpage : Page.ofFilter s f = .ok page) (hn : 1 ≤ n) (hnumber :
      (Page.offsetOf page.limit number).toNat = min ((n - 1) * page.limit.toNat) 0xFFFFFFFFFFFFFFFF) :
    Returns r (list s (atPage f number))
      (.ok (cut (r.sorted (.ofFilter f) page.order) page.limit.toNat n)) := by
  obtain ⟨hlimit, horder, hcriteria, -⟩ := Page.ofFilter_eq_ok_iff.mp hpage
  have hother : Page.ofFilter s (atPage f number) =
      .ok { page with offset := Page.offsetOf page.limit number } :=
    Page.ofFilter_eq_ok_iff.mpr ⟨hlimit, horder, hcriteria, rfl⟩
  have hreturns := returns_list (r := r) hother
  rw [Registry.page_eq_cut hr hn hnumber, hcriteria] at hreturns
  exact hreturns

/-- **Pages partition a listing.** With sound settings, a registry of fewer companies than a 64-bit
number can tell, and a filter that is accepted: a page holds at least one row and at most as many as
the settings allow, and there is one list of rows, the selected companies in order, of which page `n`
lists the positions from `(n - 1) * limit` up to `n * limit`, whatever the 64-bit number `n` is, and
which all pages together are. -/
theorem pages_partition (hs : s.validate = .ok ()) (hr : r.size < 0xFFFFFFFFFFFFFFFF)
    (hpage : Page.ofFilter s f = .ok page) :
    1 ≤ page.limit.toNat ∧ page.limit.toNat ≤ s.maxSize.toNat ∧
      ∃ rows, Paged s f r page.order page.limit.toNat rows := by
  obtain ⟨hlimit, -, hcriteria, -⟩ := Page.ofFilter_eq_ok_iff.mp hpage
  obtain ⟨hpos, hmax⟩ := Page.limit_bounds hs hlimit
  refine ⟨hpos, hmax, r.sorted (.ofFilter f) page.order, ?_⟩
  exact {
    selected := List.mergeSort_perm ..
    ordered := Registry.pairwise_sorted
    only := by
      intro hkeyed rows'
      have hlists := hkeyed.lists_sorted (.ofFilter f) page.order
      constructor
      · exact fun h => h.unique hlists
      · rintro rfl
        exact hlists
    listed := fun n hn => returns_cut hr hpage hn (Page.toNat_offsetOf _ _)
    first := by
      rintro number (rfl | rfl)
      · exact returns_cut hr hpage (Nat.le_refl 1) (by simp [Page.offsetOf])
      · exact returns_cut hr hpage (Nat.le_refl 1) (by simp [Page.offsetOf])
    counted := fun number => by
      rw [Registry.length_sorted]
      exact returns_count
    joined := fun k hk => by rw [flatMap_cut, List.take_of_length_le hk]
    past := fun n hn => cut_of_past hn }

/-- A company with a given identifier. -/
def companyNumbered (n : Nat) : Company := { Traffic.plainCompany with id := .ofNat n }

/-- The registry with the companies three, one and two. -/
def threeCompanies : Registry :=
  ⟨[3, 1, 2].map fun n => ((companyNumbered n).id, companyNumbered n), by decide⟩

/-- Three companies on pages of two: the second page holds the last of them, the third page holds none,
and all are counted. -/
theorem pages_partition_three : ∃ f : Company.Filter, f.pageSize = some 2 ∧
    Returns threeCompanies (list .standard (atPage f none))
      (.ok [companyNumbered 1, companyNumbered 2]) ∧
    Returns threeCompanies (list .standard (atPage f (some 2))) (.ok [companyNumbered 3]) ∧
    Returns threeCompanies (list .standard (atPage f (some 3))) (.ok []) ∧
    Returns threeCompanies (count (atPage f (some 3))) (.ok 3) := by
  have hpage : Page.ofFilter .standard { Company.Filter.any with pageSize := some 2 } =
      .ok ⟨.any, [], 0, 2⟩ := rfl
  obtain ⟨-, -, rows, hpaged⟩ := pages_partition (r := threeCompanies) rfl (by decide) hpage
  have hkeyed : threeCompanies.Keyed := by
    intro id c hfind
    rw [Registry.find?_eq_some_iff] at hfind
    obtain ⟨n, -, hn⟩ := List.mem_map.mp hfind
    cases hn
    rfl
  have hlists : Lists threeCompanies.find? .any []
      [companyNumbered 1, companyNumbered 2, companyNumbered 3] := by
    refine ⟨fun c => ?_, by decide, ?_⟩
    · have hperm : [companyNumbered 1, companyNumbered 2, companyNumbered 3].Perm
          threeCompanies.companies := by decide
      have hany : Criteria.any.selects c = true := rfl
      rw [← hkeyed.mem_companies, hperm.mem_iff, hany]
      simp
    · unfold NotAfter
      decide
  have hrows := (hpaged.only hkeyed _).mp hlists
  rw [← hrows] at hpaged
  exact ⟨_, rfl, hpaged.first none (.inl rfl), hpaged.listed 2 (by decide), hpaged.listed 3 (by decide),
    hpaged.counted _⟩

end Service

end Gatehouse
