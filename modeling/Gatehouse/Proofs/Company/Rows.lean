import Gatehouse.Company.Service

/-!
# Rows of the registry

What a step on the registry does to the row under a key: a step on another key leaves it as it is,
and a row that is stored is the one that is found from then on. In a registry that starts out with
every company under its own identifier, this stays so.
-/

namespace Gatehouse

namespace Registry

variable {r r' : Registry} {id : Uuid} {c : Company}

theorem contains_eq_isSome (r : Registry) (id : Uuid) : r.contains id = (r.find? id).isSome := by
  rw [contains, find?, Option.isSome_map, List.isSome_find?]

theorem find?_insert (h : r.insert c = .ok r') :
    r'.find? id = if c.id = id then some c else r.find? id := by
  rw [insert] at h
  split at h
  · cases h
  · cases h
    by_cases hid : c.id = id <;> simp [find?, hid]

theorem find?_replace (h : r.replace c = .ok r') :
    r'.find? id = if c.id = id then some c else r.find? id := by
  rw [replace] at h
  split at h
  · rename_i hold
    cases h
    -- Overwriting keeps the keys, so what is found is what was found, overwritten or not.
    have hkeys : (fun e : Uuid × Company => decide (e.1 = id)) ∘
        (fun e => if e.1 = c.id then (e.1, c) else e) = fun e => decide (e.1 = id) := by
      funext e
      by_cases he : e.1 = c.id <;> simp [he]
    simp only [find?, overwrite, List.find?_map, hkeys]
    rw [contains_eq_isSome, find?, Option.isSome_map] at hold
    by_cases hid : c.id = id
    · subst hid
      obtain ⟨e, he⟩ := Option.isSome_iff_exists.mp hold
      have hkey : e.1 = c.id := by simpa using List.find?_some he
      simp [he, hkey]
    · rw [if_neg hid]
      cases he : r.entries.find? fun e => decide (e.1 = id) with
      | none => rfl
      | some e =>
        have hkey : e.1 = id := by simpa using List.find?_some he
        simp [hkey, Ne.symm hid]
  · cases h

theorem find?_erase (r : Registry) (key id : Uuid) :
    (r.erase key).find? id = if key = id then none else r.find? id := by
  simp only [find?, erase, List.find?_filter]
  by_cases hkey : key = id
  · simp [hkey]
  · rw [if_neg hkey]
    congr 2
    funext e
    by_cases he : e.1 = id <;> simp [he, Ne.symm hkey]

/-- Every company is stored under its own identifier. -/
def Keyed (r : Registry) : Prop := ∀ id c, r.find? id = some c → c.id = id

theorem keyed_empty : empty.Keyed := by
  intro id c h
  cases h

end Registry

namespace RegistryCall

variable {call : RegistryCall} {r : Registry} {id : Uuid}

/-- Whether a step may change the registry. -/
def mutates : RegistryCall → Bool
  | insert _ | replace _ | remove _ => true
  | find _ | list _ | count _ => false

/-- Whether a step may change the row under a key. -/
def touches (id : Uuid) : RegistryCall → Bool
  | insert c | replace c => c.id = id
  | remove key => key = id
  | find _ | list _ | count _ => false

theorem mutates_of_touches (h : call.touches id = true) : call.mutates = true := by
  cases call <;> simp_all [touches, mutates]

/-- A step on another key leaves a row as it is. -/
theorem find?_perform (h : call.touches id = false) :
    (call.perform r).2.find? id = r.find? id := by
  cases call with
  | insert c =>
    have hid : c.id ≠ id := by simpa [touches] using h
    rw [perform]
    split
    · rename_i r' hr
      rw [Registry.find?_insert hr, if_neg hid]
    · rfl
  | replace c =>
    have hid : c.id ≠ id := by simpa [touches] using h
    rw [perform]
    split
    · rename_i r' hr
      rw [Registry.find?_replace hr, if_neg hid]
    · rfl
  | remove key =>
    have hid : key ≠ id := by simpa [touches] using h
    rw [perform, Registry.find?_erase, if_neg hid]
  | find _ | list _ | count _ => rfl

/-- A company that was stored in place of another is the one found from then on. -/
theorem find?_perform_replace {c c' : Company} (h : ((replace c).perform r).1 = .ok c') :
    ((replace c).perform r).2.find? c.id = some c := by
  rw [perform] at h ⊢
  cases hr : r.replace c with
  | ok r' =>
    rw [Registry.find?_replace hr, if_pos rfl]
  | error e =>
    rw [hr] at h
    cases h

theorem keyed_perform (hr : r.Keyed) : (call.perform r).2.Keyed := by
  intro id c hc
  cases ht : call.touches id with
  | false => exact hr id c (by rwa [find?_perform ht] at hc)
  | true =>
    cases call with
    | insert d =>
      have hid : d.id = id := by simpa [touches] using ht
      rw [perform] at hc
      split at hc
      · rename_i r' hins
        rw [Registry.find?_insert hins, if_pos hid] at hc
        cases hc
        exact hid
      · exact hr id c hc
    | replace d =>
      have hid : d.id = id := by simpa [touches] using ht
      rw [perform] at hc
      split at hc
      · rename_i r' hrep
        rw [Registry.find?_replace hrep, if_pos hid] at hc
        cases hc
        exact hid
      · exact hr id c hc
    | remove key =>
      have hid : key = id := by simpa [touches] using ht
      rw [perform, Registry.find?_erase, if_pos hid] at hc
      cases hc
    | find _ | list _ | count _ => cases ht

end RegistryCall

end Gatehouse
