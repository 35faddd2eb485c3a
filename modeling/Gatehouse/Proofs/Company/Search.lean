import Gatehouse.Proofs.Company.Errand
import Gatehouse.Proofs.Company.Sorting
import Gatehouse.Proofs.Text.Lowering

/-!
# What a search finds

A search takes the blanks away from around its text and looks for what is left in the names and the
descriptions, both in lower case. Text and company are lower-cased apart from each other, and a
capital sigma has two small forms, one of them for the end of a word. So a company may have just the
text that is searched for in its name and is not found, as the sigma ends a word in one of the two
and not in the other. A company is found wherever the sigmas keep their form; and a text is found
wherever it stands exactly if it settles the form of its sigmas by itself, as a text without a
capital sigma does.
-/

namespace Gatehouse

/-- The filter that searches for a text and asks for nothing else. -/
def Company.Filter.searching (search : String) : Company.Filter :=
  { Company.Filter.any with search := some search }

variable {r : Registry} {c : Company} {search : String}

/-! ## Companies that are found -/

namespace Registry

variable {criteria : Criteria}

/-- A stored company is found: it is selected, it is among the rows if all of them are listed, in
whatever order, and without it one row less is counted. -/
structure Finds (r : Registry) (criteria : Criteria) (c : Company) : Prop where
  selected : criteria.selects c = true
  listed : ∀ order limit, r.size ≤ limit.toNat →
    ∃ rows, (RegistryCall.list ⟨criteria, order, 0, limit⟩).perform r = (.ok rows, r) ∧ c ∈ rows
  counted : (RegistryCall.count criteria).perform r =
    (.ok ((r.erase c.id).count criteria + 1), r)

theorem find?_sole (c : Company) : (sole c).find? c.id = some c := by
  simp [find?, sole]

/-- A registry has a row and those that are left without it. -/
theorem perm_cons_erase (hfind : r.find? c.id = some c) :
    r.companies.Perm (c :: (r.erase c.id).companies) := by
  have hmem : (c.id, c) ∈ r.entries := find?_eq_some_iff.mp hfind
  have hothers : r.entries.erase (c.id, c) = (r.erase c.id).entries := by
    rw [(List.Nodup.of_map _ r.keys_nodup).erase_eq_filter]
    refine List.filter_congr fun e he => ?_
    have hkey : e = (c.id, c) ↔ e.1 = c.id := by
      refine ⟨fun heq => by rw [heq], fun hid => ?_⟩
      obtain ⟨id, d⟩ := e
      cases hid
      rw [find?_eq_some_iff.mpr he, Option.some.injEq] at hfind
      rw [hfind]
    rw [Bool.eq_iff_iff, bne_iff_ne, decide_eq_true_iff, Ne, Ne, hkey]
  have hperm := (List.perm_cons_erase hmem).map Prod.snd
  rw [hothers] at hperm
  exact hperm

/-- All rows are on a page with room for all of them. -/
theorem page_of_all {order : List SortKey} {limit : UInt64} (h : r.size ≤ limit.toNat) :
    r.page ⟨criteria, order, 0, limit⟩ = r.sorted criteria order :=
  List.take_of_length_le ((r.length_sorted_le criteria order).trans h)

/-- A stored company is found exactly if it is selected. -/
theorem Keyed.finds_iff (hr : r.Keyed) (hfind : r.find? c.id = some c) :
    r.Finds criteria c ↔ criteria.selects c = true := by
  refine ⟨Finds.selected, fun hselects => ⟨hselects, fun order limit hlimit => ?_, ?_⟩⟩
  · have hall : r.page ⟨criteria, order, 0, limit⟩ = r.sorted criteria order := page_of_all hlimit
    exact ⟨_, by rw [RegistryCall.perform, hall], hr.mem_sorted.mpr ⟨hfind, hselects⟩⟩
  · have hcount : r.count criteria = (r.erase c.id).count criteria + 1 := by
      rw [count, ((perm_cons_erase hfind).filter _).length_eq, List.filter_cons_of_pos hselects]
      rfl
    rw [RegistryCall.perform, hcount]

end Registry

/-! ## Companies that are selected by a search -/

/-- A text stands in the name or the description of a company, between some other texts. -/
def Company.Has (c : Company) (pre s post : List Char) : Prop :=
  c.name.toList = pre ++ s ++ post ∨ c.description.toList = pre ++ s ++ post

/-- A company is selected by a search exactly if the text that is left after trimming occurs in its
name or its description, all in lower case. -/
theorem Criteria.selects_searching_iff (hvisible : Text.trim search ≠ "") :
    (ofFilter (.searching search)).selects c = true ↔
      Text.lowerChars (Text.trim search).toList <:+: Text.lowerChars c.name.toList ∨
      Text.lowerChars (Text.trim search).toList <:+: Text.lowerChars c.description.toList := by
  have hneedle : needleOf? (some search) = some (Text.lowercase (Text.trim search)) := by
    rw [needleOf?, Option.bind_some]
    exact if_neg (by simpa using hvisible)
  have hcriteria : ofFilter (.searching search) =
      { any with needle := some (Text.lowercase (Text.trim search)) } := by
    rw [ofFilter, Company.Filter.searching, hneedle]
    rfl
  rw [hcriteria]
  simp [selects, any, contains, Text.lowercase, Text.occursIn_iff]

/-- A text in the description of a company and in its name. -/
def companyWith (text : List Char) : Company :=
  { Traffic.plainCompany with name := String.ofList text, description := String.ofList text }

/-- A stored company that has the searched text is found if the text keeps its sigmas there. -/
theorem Registry.Keyed.finds_of_keeps {pre post : List Char} (hr : r.Keyed)
    (hvisible : Text.trim search ≠ "") (hfind : r.find? c.id = some c)
    (hhas : c.Has pre (Text.trim search).toList post)
    (hkeeps : Text.KeepsSigmas pre (Text.trim search).toList post) :
    r.Finds (.ofFilter (.searching search)) c := by
  rw [hr.finds_iff hfind, Criteria.selects_searching_iff hvisible]
  rcases hhas with hname | htext
  · exact .inl (by rw [hname]; exact hkeeps.found)
  · exact .inr (by rw [htext]; exact hkeeps.found)

/-- **What a search finds of what is literally there.** A stored company that has the searched text,
the blanks around it aside, in its name or its description is found if the text keeps its sigmas
there. All stored companies that have the text are found exactly if the text settles them by
itself. -/
theorem literal_search_iff (hvisible : Text.trim search ≠ "") :
    (∀ r c pre post, Registry.Keyed r → r.find? c.id = some c →
      c.Has pre (Text.trim search).toList post →
      Text.KeepsSigmas pre (Text.trim search).toList post →
        r.Finds (.ofFilter (.searching search)) c) ∧
    ((∀ r c pre post, Registry.Keyed r → r.find? c.id = some c →
      c.Has pre (Text.trim search).toList post → r.Finds (.ofFilter (.searching search)) c) ↔
        Text.Settled (Text.trim search).toList) := by
  refine ⟨fun r c pre post hr => hr.finds_of_keeps hvisible, fun hall => ?_, ?_⟩
  · refine Text.found_everywhere_iff.mp fun pre post => ?_
    -- a company with the text in both places is found only if the text occurs there in lower case
    have hfinds := hall _ (companyWith (pre ++ (Text.trim search).toList ++ post)) pre post
      (Registry.keyed_sole _) (Registry.find?_sole _) (.inl String.toList_ofList)
    have hselects := (Criteria.selects_searching_iff hvisible).mp hfinds.selected
    rwa [companyWith, or_self, String.toList_ofList] at hselects
  · intro hsettled r c pre post hr hfind hhas
    exact hr.finds_of_keeps hvisible hfind hhas (hsettled.keeps pre post)

/-- A company is found by the whole of its name, and not every company that has this text is. -/
theorem literal_search_iff_street :
    Text.trim " ΟΔΟΣ " ≠ "" ∧
    (Registry.sole (companyWith "ΟΔΟΣ".toList)).Finds (.ofFilter (.searching " ΟΔΟΣ "))
      (companyWith "ΟΔΟΣ".toList) ∧
    ¬∀ r c pre post, Registry.Keyed r → r.find? c.id = some c →
      c.Has pre (Text.trim " ΟΔΟΣ ").toList post →
        r.Finds (.ofFilter (.searching " ΟΔΟΣ ")) c := by
  have hvisible : Text.trim " ΟΔΟΣ " ≠ "" := by decide
  obtain ⟨hkept, hall⟩ := literal_search_iff hvisible
  refine ⟨hvisible, ?_, fun hfound => ?_⟩
  · exact hkept _ _ [] [] (Registry.keyed_sole _) (Registry.find?_sole _) (.inl (by decide))
      Text.keepsSigmas_alone
  · have hopen : ¬Text.SettledAt ['Ο', 'Δ', 'Ο'] [] := by decide +kernel
    exact hopen (hall.mp hfound ['Ο', 'Δ', 'Ο'] [] (by decide))

/-- A company whose name ends with a sigma. -/
def alphaSigma : Company := { Traffic.plainCompany with name := "ΑΣ" }

/-- The sigma is in the name of the company, and a search for it does not select the company, and
neither lists nor counts it. -/
theorem final_sigma_not_found :
    alphaSigma.toDraft.validate = .ok () ∧ Text.trim "Σ" ≠ "" ∧
    alphaSigma.Has ['Α'] (Text.trim "Σ").toList [] ∧
    (Criteria.ofFilter (.searching "Σ")).selects alphaSigma = false ∧
    (∀ order, alphaSigma ∉ (Registry.sole alphaSigma).sorted (.ofFilter (.searching "Σ")) order) ∧
    (Registry.sole alphaSigma).count (.ofFilter (.searching "Σ")) = 0 := by
  have hselects : (Criteria.ofFilter (.searching "Σ")).selects alphaSigma = false := by
    decide +kernel
  refine ⟨by decide, by decide, .inl (by decide), hselects, fun order hmem => ?_, by decide +kernel⟩
  obtain ⟨-, hselected⟩ := (Registry.keyed_sole alphaSigma).mem_sorted.mp hmem
  rw [hselects] at hselected
  cases hselected

end Gatehouse
