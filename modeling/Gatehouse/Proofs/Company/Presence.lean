import Gatehouse.Proofs.Company.Lineage
import Gatehouse.Proofs.Company.Overlap
import Mathlib.Data.List.Induction

/-!
# Keys in use

A key of the registry is in use from the insertion of a row under it, or from the start, and it is so
until this row is removed. Nothing else turns the use of a key: to store a row in place of another
keeps it, and a step that is refused changes nothing. If no identifier is given out twice, a key under
which a row was removed is not in use again.

The vocabulary is `Inserted`, `Known` and `Removed`, what a history says about a key, and `Turn`, what
one step does to the use of a key.
-/

namespace Gatehouse

/-! ## Steps -/

namespace Registry

variable {r : Registry} {id : Uuid} {e : Happening systemSignature}

theorem contains_congr {r' : Registry} (h : r'.find? id = r.find? id) :
    r'.contains id = r.contains id := by
  rw [contains_eq_isSome, contains_eq_isSome, h]

/-- A row that is stored in place of another is stored under a key that was in use. -/
theorem contains_replace (row : Company) :
    ((RegistryCall.replace row).perform r).2.contains id = r.contains id := by
  rw [RegistryCall.perform]
  cases hrep : r.replace row with
  | error e => rfl
  | ok r' =>
    rw [contains_eq_isSome, contains_eq_isSome, find?_replace hrep]
    by_cases hid : row.id = id
    · have hin : r.contains row.id = true := by
        by_contra hout
        simp [replace, hout] at hrep
      rw [contains_eq_isSome, hid] at hin
      simp [hid, hin]
    · simp [hid]

/-- A row cannot be inserted under a key that is in use. -/
theorem perform_insert_of_contains {row : Company} (h : r.contains row.id = true) :
    (RegistryCall.insert row).perform r =
      (.error (.invalid "id" "company with this id already exists"), r) := by
  simp [RegistryCall.perform, insert, h]

theorem perform_insert_of_not_contains {row : Company} (h : r.contains row.id = false) :
    ((RegistryCall.insert row).perform r).1 = .ok row ∧
      ((RegistryCall.insert row).perform r).2.contains row.id = true := by
  rw [RegistryCall.perform]
  cases hins : r.insert row with
  | ok r' => exact ⟨rfl, by rw [contains_eq_isSome, find?_insert hins, if_pos rfl]; rfl⟩
  | error e => simp [insert, h] at hins

/-- A row cannot be stored in place of another under a key that is not in use. -/
theorem perform_replace_of_not_contains {row : Company} (h : r.contains row.id = false) :
    (RegistryCall.replace row).perform r = (.error (.notFound row.id), r) := by
  simp [RegistryCall.perform, replace, h]

/-- What a step does to the use of a key: nothing, or it stores the first row under it, or it removes
the row under it. -/
inductive Turn (r : Registry) (id : Uuid) (e : Happening systemSignature) : Prop where
  | kept (same : (r.after e).contains id = r.contains id)
    (no_insert : ∀ row, row.id = id → e ≠ .act ⟨.registry (.insert row), .ok row⟩)
    (no_remove : e ≠ .act ⟨.registry (.remove id), .ok true⟩)
  | inserted (row : Company) (step : e = .act ⟨.registry (.insert row), .ok row⟩)
    (key : row.id = id) (absent : r.contains id = false) (present : (r.after e).contains id = true)
  | removed (step : e = .act ⟨.registry (.remove id), .ok true⟩) (present : r.contains id = true)
    (absent : (r.after e).contains id = false)

theorem turn_of_told
    (h : ∀ call x, e = .act ⟨.registry call, x⟩ → x = (call.perform r).1) : Turn r id e := by
  cases ht : e.touches id with
  | false =>
    refine .kept (contains_congr (find?_after ht)) (fun row hid he => ?_) fun he => ?_
    · rw [he] at ht
      simp [Happening.touches, RegistryCall.touches, hid] at ht
    · rw [he] at ht
      simp [Happening.touches, RegistryCall.touches] at ht
  | true =>
    unfold Happening.touches at ht
    split at ht
    · rename_i call x
      have htold : x = (call.perform r).1 := h call x rfl
      cases call with
      | insert row =>
        have hid : row.id = id := by simpa [RegistryCall.touches] using ht
        cases hin : r.contains id with
        | false =>
          rw [← hid] at hin
          obtain ⟨hok, hpresent⟩ := perform_insert_of_not_contains hin
          rw [hok] at htold
          subst htold
          exact .inserted row rfl hid (hid ▸ hin) (hid ▸ hpresent)
        | true =>
          rw [← hid] at hin
          have hrefused := perform_insert_of_contains hin
          rw [hrefused] at htold
          subst htold
          refine .kept ?_ (fun row' _ he => ?_) fun he => ?_
          · rw [after, hrefused]
          · injection he with he
            simp at he
          · injection he with he
            simp at he
      | replace row => exact .kept (contains_replace row) (by simp) (by simp)
      | remove key =>
        have hid : key = id := by simpa [RegistryCall.touches] using ht
        subst hid
        have habsent : (r.after (.act ⟨.registry (.remove key), x⟩)).contains key = false := by
          rw [contains_eq_isSome]
          simp [after, RegistryCall.perform, find?_erase]
        cases hin : r.contains key with
        | true =>
          have hx : x = .ok true := by rw [htold, RegistryCall.perform, hin]
          exact .removed (by rw [hx]) hin habsent
        | false =>
          have hx : x = .ok false := by rw [htold, RegistryCall.perform, hin]
          refine .kept (by rw [habsent, hin]) (by simp) fun he => ?_
          rw [hx] at he
          simp at he
      | find _ | list _ | count _ => cases ht
    · cases ht

end Registry

namespace Traffic

section Keys

variable {β : Type} {w w' : Traffic β} {r : Registry} {h h₁ h₂ k : History} {id : Uuid}

/-- A request removes the row under a key, if there is one. -/
abbrev removes (i : Nat) (id : Uuid) (found : (RegistryCall.remove id).Answer) :
    Nat × Happening systemSignature :=
  (i, .act ⟨.registry (.remove id), found⟩)

/-- In a history a row was inserted under a key. -/
def Inserted (h : History) (id : Uuid) : Prop :=
  ∃ i row, row.id = id ∧ (i, .act ⟨.registry (.insert row), .ok row⟩) ∈ h

/-- A key was in use at first, or a row was inserted under it. -/
def Known (r : Registry) (h : History) (id : Uuid) : Prop :=
  r.contains id = true ∨ Inserted h id

/-- In a history the row under a key was removed. -/
def Removed (h : History) (id : Uuid) : Prop := ∃ i, removes i id (.ok true) ∈ h

theorem inserted_append : Inserted (h ++ k) id ↔ Inserted h id ∨ Inserted k id := by
  simp only [Inserted, List.mem_append, and_or_left, exists_or]

theorem inserted_singleton {i : Nat} {e : Happening systemSignature} : Inserted [(i, e)] id ↔
    ∃ row, row.id = id ∧ e = .act ⟨.registry (.insert row), .ok row⟩ := by
  simp [Inserted, eq_comm]

theorem removed_append : Removed (h ++ k) id ↔ Removed h id ∨ Removed k id := by
  simp only [Removed, List.mem_append, exists_or]

theorem removed_singleton {i : Nat} {e : Happening systemSignature} :
    Removed [(i, e)] id ↔ e = .act ⟨.registry (.remove id), .ok true⟩ := by
  simp [Removed, eq_comm]

theorem Known.append (hk : Known r h id) (k : History) : Known r (h ++ k) id :=
  hk.imp_right fun hi => inserted_append.mpr (.inl hi)

/-- The last step of a history, as it turns the use of a key. -/
theorem Steps.turn {e : Nat × Happening systemSignature} (hs : Steps w (h ++ [e]) w') (id : Uuid) :
    Registry.Turn (w.registry.following h) id e.2 := by
  obtain ⟨w₁, h₁, h₂⟩ := hs.split
  obtain _ | ⟨hstep, -⟩ := h₂
  cases hstep with
  | step own told =>
    rw [← h₁.registry_eq]
    exact Registry.turn_of_told told

/-- A key that is in use is known. -/
theorem known_of_contains (hs : Steps w h w')
    (hin : (w.registry.following h).contains id = true) : Known w.registry h id := by
  induction h using List.reverseRecOn generalizing w' with
  | nil => exact .inl hin
  | append_singleton h e ih =>
    obtain ⟨w₁, hs₁, -⟩ := hs.split
    rw [Registry.following_append] at hin
    cases hs.turn id with
    | kept same _ _ =>
      have hbefore : (w.registry.following h).contains id = true := same ▸ hin
      exact (ih hs₁ hbefore).append [e]
    | inserted row step key _ _ =>
      exact .inr (inserted_append.mpr (.inr (inserted_singleton.mpr ⟨row, key, step⟩)))
    | removed _ _ absent => exact absurd hin (by simp [absent])

/-- A key that is known is in use unless the row under it was removed. -/
theorem contains_of_known (hs : Steps w h w') (hk : Known w.registry h id) (hr : ¬Removed h id) :
    (w.registry.following h).contains id = true := by
  induction h using List.reverseRecOn generalizing w' with
  | nil => exact hk.resolve_right fun ⟨_, _, _, hmem⟩ => List.not_mem_nil hmem
  | append_singleton h e ih =>
    obtain ⟨w₁, hs₁, -⟩ := hs.split
    rw [removed_append, not_or] at hr
    rw [Registry.following_append]
    cases hs.turn id with
    | kept same no_insert _ =>
      have hbefore : Known w.registry h id := by
        refine hk.imp_right fun hi => (inserted_append.mp hi).resolve_right fun hlast => ?_
        obtain ⟨row, hid, he⟩ := inserted_singleton.mp hlast
        exact no_insert row hid he
      exact same.trans (ih hs₁ hbefore hr.1)
    | inserted _ _ _ _ present => exact present
    | removed step _ _ => exact absurd (removed_singleton.mpr step) hr.2

/-- What was removed was known before. -/
theorem Removed.known (hs : Steps w h w') (hr : Removed h id) : Known w.registry h id := by
  obtain ⟨i, hmem⟩ := hr
  obtain ⟨h₁, h₂, rfl⟩ := List.append_of_mem hmem
  obtain ⟨w₁, hs₁, -⟩ := hs.split
  have hin : (w.registry.following h₁).contains id = true := (Except.ok.inj hs.told).symm
  exact (known_of_contains hs₁ hin).append _

end Keys

open Errand

variable {g : CompanyGate} {s : PagingSettings} {r : Registry}
  {errands : Nat → Option (Caller × Errand)} {h h₁ h₂ k : History} {i j : Nat}
  {w w' : Traffic (Except Failure Result)} {id : Uuid} {row : Company}

/-! ## Identifiers that are given out once -/

theorem Unrepeated.of_append (hu : Unrepeated r (h ++ k)) : Unrepeated r h := by
  have hgiven : given (h ++ k) = given h ++ given k := List.filterMap_append ..
  obtain ⟨hnodup, hunused⟩ := hu
  rw [hgiven] at hnodup hunused
  exact ⟨hnodup.of_append_left, fun id hid => hunused id (List.mem_append_left _ hid)⟩

/-- A request that inserts a row was given its identifier. -/
theorem given_of_insert {x : Except RegistryError Company}
    (hs : Steps (opening g s r errands) (h₁ ++ (i, .act ⟨.registry (.insert row), x⟩) :: h₂) w) :
    (i, .act ⟨.freshId, row.id⟩) ∈ h₁ := by
  obtain ⟨c, e, -, hbegins⟩ := begins_of_opening hs (List.mem_append_right _ List.mem_cons_self)
  rw [said_append, said_cons_self] at hbegins
  obtain ⟨sc, t, v₁, v₂, hv, -, -, hstore⟩ := exists_call hbegins rfl
  refine mem_said.mp (hv ▸ List.mem_append_right v₁ ?_)
  obtain ⟨-, -, ⟨d, _, rfl, -⟩ | ⟨_, _, _, _, _, hcall⟩ | ⟨_, _, _, hcall⟩⟩ :=
    Service.begins_store hstore rfl
  · obtain ⟨now, id, rfl, hcall⟩ := Service.begins_create hstore
    cases hcall
    simp [Company.ofDraft]
  · cases hcall
  · cases hcall

/-- If no identifier is given out twice, rows are inserted under keys that are not known. -/
theorem not_known_of_insert {x : Except RegistryError Company}
    (hs : Steps (opening g s r errands) (h₁ ++ (i, .act ⟨.registry (.insert row), x⟩) :: h₂) w)
    (hu : Unrepeated r (h₁ ++ (i, .act ⟨.registry (.insert row), x⟩) :: h₂)) :
    ¬Known r h₁ row.id := by
  have hgiven : (i, .act ⟨.freshId, row.id⟩) ∈ h₁ := given_of_insert hs
  have hu₁ : Unrepeated r h₁ := hu.of_append
  rintro (hin | ⟨j, row', hid, hmem⟩)
  · rw [Registry.contains_eq_isSome, hu₁.unused _ (mem_given hgiven)] at hin
    cases hin
  · -- Whoever else has inserted such a row was given the same identifier, so it is the same request.
    obtain ⟨k₁, k₂, rfl⟩ := List.append_of_mem hmem
    have hs' := hs
    rw [List.append_assoc, List.cons_append] at hs'
    have hgiven' : (j, .act ⟨.freshId, row.id⟩) ∈ k₁ := hid ▸ given_of_insert hs'
    obtain rfl : j = i := eq_of_given hu₁.nodup (List.mem_append_left _ hgiven') hgiven
    exact not_mem_of_mutation hs rfl rfl hmem

/-- If no identifier is given out twice, a key is not in use once its row was removed. -/
theorem not_contains_of_removed (hs : Steps (opening g s r errands) h w) (hu : Unrepeated r h)
    (hr : Removed h id) : (r.following h).contains id = false := by
  induction h using List.reverseRecOn generalizing w with
  | nil =>
    obtain ⟨i, hmem⟩ := hr
    exact absurd hmem List.not_mem_nil
  | append_singleton h e ih =>
    obtain ⟨w₁, hs₁, -⟩ := hs.split
    rw [Registry.following_append]
    rw [removed_append] at hr
    cases hs.turn id with
    | kept same _ no_remove =>
      have hbefore : Removed h id :=
        hr.resolve_right fun hlast => no_remove (removed_singleton.mp hlast)
      exact same.trans (ih hs₁ hu.of_append hbefore)
    | inserted row step key _ _ =>
      -- The key is fresh, but a row was removed under it before.
      have hbefore : Removed h id := by
        refine hr.resolve_right fun hlast => ?_
        cases step.symm.trans (removed_singleton.mp hlast)
      obtain ⟨i, e⟩ := e
      subst key
      cases (step : e = _)
      exact absurd (hbefore.known hs₁) (not_known_of_insert hs hu)
    | removed _ _ absent => exact absent

end Traffic

end Gatehouse
