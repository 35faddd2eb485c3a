import Gatehouse.Proofs.Company.Errand
import Gatehouse.Proofs.Surroundings
import Mathlib.Logic.Function.Basic

/-!
# Calls on the store, one at a time

What the service answers and what becomes of the registry when nothing comes between the steps of a
call. The registry is a map from identifiers to companies, and each call that changes it changes the
map at one identifier, or is refused and leaves the registry as it is. Who else is asked, the clock
and whoever gives out identifiers, may answer in any way.
-/

namespace Gatehouse

/-- What is stored under which identifier. -/
abbrev Ledger := Uuid → Option Company

namespace Registry

variable {r r' : Registry} {c : Company} {id : Uuid}

/-- A question in front of a registry. Only the registry has its answers fixed. -/
def Step (r : Registry) : systemSignature.Act → Registry → Prop
  | ⟨.registry call, x⟩, r' => call.perform r = (x, r')
  | _, r' => r' = r

theorem find?_eq_update_of_insert (h : r.insert c = .ok r') :
    r'.find? = Function.update r.find? c.id (some c) := by
  funext id
  rw [find?_insert h, Function.update_apply]
  simp only [eq_comm]

theorem find?_eq_update_of_replace (h : r.replace c = .ok r') :
    r'.find? = Function.update r.find? c.id (some c) := by
  funext id
  rw [find?_replace h, Function.update_apply]
  simp only [eq_comm]

theorem find?_erase_eq_update (r : Registry) (id : Uuid) :
    (r.erase id).find? = Function.update r.find? id none := by
  funext key
  rw [find?_erase, Function.update_apply]
  simp only [eq_comm]

/-- There is nothing to remove where nothing is stored. -/
theorem erase_of_not_contains (h : r.contains id = false) : r.erase id = r := by
  obtain ⟨entries, hnodup⟩ := r
  simp only [erase, mk.injEq, List.filter_eq_self]
  intro e he
  have hne : ∀ e ∈ entries, e.1 ≠ id := by simpa [contains] using h
  simpa using hne e he

/-- A company is inserted unless its identifier is in use. -/
theorem insert_ok_iff : (∃ r', r.insert c = .ok r') ↔ r.find? c.id = none := by
  have hfree : r.find? c.id = none ↔ ¬r.contains c.id = true := by
    simp [contains_eq_isSome]
  rw [hfree]
  by_cases hc : r.contains c.id = true <;> simp [insert, hc]

/-- A company replaces the one under its identifier if there is one. -/
theorem replace_ok_iff : (∃ r', r.replace c = .ok r') ↔ (r.find? c.id).isSome := by
  rw [← contains_eq_isSome]
  by_cases hc : r.contains c.id = true <;> simp [replace, hc]

theorem step_find {x : Except RegistryError (Option Company)} :
    r.Step ⟨.registry (.find id), x⟩ r' ↔ x = .ok (r.find? id) ∧ r' = r := by
  simp [Step, RegistryCall.perform, eq_comm]

theorem step_insert {x : Except RegistryError Company} :
    r.Step ⟨.registry (.insert c), x⟩ r' ↔
      (r.insert c = .ok r' ∧ x = .ok c) ∨ ∃ e, r.insert c = .error e ∧ x = .error e ∧ r' = r := by
  cases h : r.insert c <;> simp [Step, RegistryCall.perform, h, eq_comm, and_comm]

theorem step_replace {x : Except RegistryError Company} :
    r.Step ⟨.registry (.replace c), x⟩ r' ↔
      (r.replace c = .ok r' ∧ x = .ok c) ∨ ∃ e, r.replace c = .error e ∧ x = .error e ∧ r' = r := by
  cases h : r.replace c <;> simp [Step, RegistryCall.perform, h, eq_comm, and_comm]

theorem step_remove {x : Except RegistryError Bool} :
    r.Step ⟨.registry (.remove id), x⟩ r' ↔ x = .ok (r.contains id) ∧ r' = r.erase id := by
  simp [Step, RegistryCall.perform, eq_comm]

theorem step_list {page : Page} {x : Except RegistryError (List Company)} :
    r.Step ⟨.registry (.list page), x⟩ r' ↔ x = .ok (r.page page) ∧ r' = r := by
  simp [Step, RegistryCall.perform, eq_comm]

theorem step_count {criteria : Criteria} {x : Except RegistryError Nat} :
    r.Step ⟨.registry (.count criteria), x⟩ r' ↔ x = .ok (r.count criteria) ∧ r' = r := by
  simp [Step, RegistryCall.perform, eq_comm]

/-- Questions that are harmless leave the registry as it is. -/
theorem eq_of_step_of_harmless {a : systemSignature.Act} (ha : Harmless a.question)
    (h : r.Step a r') : r' = r := by
  obtain ⟨q, x⟩ := a
  cases q with
  | registry call =>
    have hcall : call.mutates = false := ha
    have hperform : call.perform r = (x, r') := h
    cases call with
    | find _ | list _ | count _ =>
      cases hperform
      rfl
    | insert _ | replace _ | remove _ => cases hcall
  | _ => exact h

/-- The answers in front of a registry, all others fixed, and what becomes of the registry. -/
def answer (outside : (q : SystemCall) → q.Answer) (r : Registry) :
    (q : SystemCall) → q.Answer × Registry
  | .registry call => call.perform r
  | q => (outside q, r)

theorem step_of_answer {outside : (q : SystemCall) → q.Answer} {a : systemSignature.Act}
    (h : r.answer outside a.question = (a.answer, r')) : r.Step a r' := by
  obtain ⟨q, x⟩ := a
  cases q with
  | registry call => exact h
  | _ => exact (congrArg Prod.snd h).symm

end Registry

namespace Service

open Registry

variable {r r' : Registry} {u : Trace systemSignature} {s : PagingSettings}

/-- What there is to say about a missing company. -/
def missing (id : Uuid) : Failure := .notFound "company" id.text

/-- The company under an identifier, or that it is missing. -/
def lookup (m : Ledger) (id : Uuid) : Except Failure Company :=
  match m id with
  | some c => .ok c
  | none => .error (missing id)

theorem lookup_ok_iff {m : Ledger} {id : Uuid} {c : Company} :
    lookup m id = .ok c ↔ m id = some c := by
  unfold lookup
  cases m id <;> simp

theorem lookup_error_iff {m : Ledger} {id : Uuid} {e : Failure} :
    lookup m id = .error e ↔ m id = none ∧ e = missing id := by
  unfold lookup
  cases m id <;> simp [eq_comm]

theorem get_effect {id : Uuid} {x : Except Failure Company} (h : Program.Ends (get id).run u x)
    (hu : Leads Registry.Step r u r') : r' = r ∧ x = lookup r.find? id := by
  obtain ⟨_, u₁, rfl, h₁⟩ := h
  obtain ⟨y, u₂, rfl, h₂⟩ := h₁
  obtain ⟨r, rfl, hu₁⟩ := leads_cons.mp hu
  obtain ⟨r, hfind, hu₂⟩ := leads_cons.mp hu₁
  obtain ⟨rfl, rfl⟩ := step_find.mp hfind
  cases hc : r.find? id with
  | some c =>
    rw [hc] at h₂
    obtain ⟨rfl, rfl⟩ := h₂
    exact ⟨leads_nil.mp hu₂, (lookup_ok_iff.mpr hc).symm⟩
  | none =>
    rw [hc] at h₂
    obtain ⟨rfl, rfl⟩ := h₂
    exact ⟨leads_nil.mp hu₂, (lookup_error_iff.mpr ⟨hc, rfl⟩).symm⟩

theorem list_effect {f : Company.Filter} {x : Except Failure (List Company)}
    (h : Program.Ends (list s f).run u x) (hu : Leads Registry.Step r u r') :
    r' = r ∧ x = ((Page.ofFilter s f).mapError Failure.ofRegistry).map r.page := by
  cases hpage : Page.ofFilter s f with
  | error e =>
    rw [list, hpage] at h
    obtain ⟨rfl, rfl⟩ := h
    exact ⟨leads_nil.mp hu, rfl⟩
  | ok page =>
    rw [list, hpage] at h
    obtain ⟨y, u₁, rfl, h₁⟩ := h
    obtain ⟨r, hlist, hu₁⟩ := leads_cons.mp hu
    obtain ⟨rfl, rfl⟩ := step_list.mp hlist
    obtain ⟨_, u₂, rfl, rfl, rfl⟩ := h₁
    obtain ⟨r₁, hlog, hu₂⟩ := leads_cons.mp hu₁
    exact ⟨(leads_nil.mp hu₂).trans hlog, rfl⟩

theorem count_effect {f : Company.Filter} {x : Except Failure Nat}
    (h : Program.Ends (count f).run u x) (hu : Leads Registry.Step r u r') :
    r' = r ∧ x = .ok (r.count (.ofFilter f)) := by
  obtain ⟨y, u₁, rfl, h₁⟩ := h
  obtain ⟨r, hcount, hu₁⟩ := leads_cons.mp hu
  obtain ⟨rfl, rfl⟩ := step_count.mp hcount
  obtain ⟨rfl, rfl⟩ := h₁
  exact ⟨leads_nil.mp hu₁, rfl⟩

/-- A draft is refused, or becomes a company under an identifier that is given out. -/
theorem create_effect {d : Company.Draft} {x : Except Failure Company}
    (h : Program.Ends (create d).run u x) (hu : Leads Registry.Step r u r') :
    (∃ e, d.validate = .error e ∧ x = .error (.ofRegistry e) ∧ r' = r) ∨
      ∃ now id, d.validate = .ok () ∧ ⟨.now, now⟩ ∈ u ∧ ⟨.freshId, id⟩ ∈ u ∧
        ((r.insert (.ofDraft id now d) = .ok r' ∧ x = .ok (.ofDraft id now d)) ∨
          ∃ e, r.insert (.ofDraft id now d) = .error e ∧ x = .error (.ofRegistry e) ∧ r' = r) := by
  cases hvalid : d.validate with
  | error e =>
    rw [create, hvalid] at h
    obtain ⟨rfl, rfl⟩ := h
    exact .inl ⟨e, rfl, rfl, leads_nil.mp hu⟩
  | ok _ =>
    rw [create, hvalid] at h
    obtain ⟨now, u₁, rfl, id, u₂, rfl, y, u₃, rfl, h₃⟩ := h
    obtain ⟨r, rfl, hu₁⟩ := leads_cons.mp hu
    obtain ⟨r, rfl, hu₂⟩ := leads_cons.mp hu₁
    obtain ⟨r₁, hinsert, hu₃⟩ := leads_cons.mp hu₂
    refine .inr ⟨now, id, rfl, by simp, by simp, ?_⟩
    rcases step_insert.mp hinsert with ⟨hok, rfl⟩ | ⟨e, he, rfl, rfl⟩
    · obtain ⟨_, u₄, rfl, rfl, rfl⟩ := h₃
      obtain ⟨r₁, rfl, hu₄⟩ := leads_cons.mp hu₃
      rw [leads_nil.mp hu₄]
      exact .inl ⟨hok, rfl⟩
    · obtain ⟨rfl, rfl⟩ := h₃
      exact .inr ⟨e, he, rfl, leads_nil.mp hu₃⟩

/-- A patch is refused, or is about no company, or overwrites the one that it is about. -/
theorem update_effect {p : Company.Patch} {x : Except Failure Company}
    (h : Program.Ends (update p).run u x) (hu : Leads Registry.Step r u r') :
    (∃ e, p.validate = .error e ∧ x = .error (.ofRegistry e) ∧ r' = r) ∨
      (p.validate = .ok () ∧ r.find? p.id = none ∧ x = .error (missing p.id) ∧ r' = r) ∨
      ∃ c now, p.validate = .ok () ∧ r.find? p.id = some c ∧ ⟨.now, now⟩ ∈ u ∧
        ((r.replace (overwritten p c now) = .ok r' ∧ x = .ok (overwritten p c now)) ∨
          ∃ e, r.replace (overwritten p c now) = .error e ∧ x = .error (.ofRegistry e) ∧
            r' = r) := by
  cases hvalid : p.validate with
  | error e =>
    rw [update, hvalid] at h
    obtain ⟨rfl, rfl⟩ := h
    exact .inl ⟨e, rfl, rfl, leads_nil.mp hu⟩
  | ok _ =>
    rw [update, hvalid] at h
    obtain ⟨y, u₁, rfl, h₁⟩ := h
    obtain ⟨r, hfind, hu₁⟩ := leads_cons.mp hu
    obtain ⟨rfl, rfl⟩ := step_find.mp hfind
    cases hc : r.find? p.id with
    | none =>
      rw [hc] at h₁
      obtain ⟨rfl, rfl⟩ := h₁
      exact .inr (.inl ⟨rfl, rfl, rfl, leads_nil.mp hu₁⟩)
    | some c =>
      rw [hc] at h₁
      obtain ⟨now, u₂, rfl, y, u₃, rfl, h₃⟩ := h₁
      obtain ⟨r, rfl, hu₂⟩ := leads_cons.mp hu₁
      obtain ⟨r₁, hreplace, hu₃⟩ := leads_cons.mp hu₂
      refine .inr (.inr ⟨c, now, rfl, rfl, by simp, ?_⟩)
      rcases step_replace.mp hreplace with ⟨hok, rfl⟩ | ⟨e, he, rfl, rfl⟩
      · obtain ⟨_, u₄, rfl, rfl, rfl⟩ := h₃
        obtain ⟨r₁, rfl, hu₄⟩ := leads_cons.mp hu₃
        rw [leads_nil.mp hu₄]
        exact .inl ⟨hok, rfl⟩
      · obtain ⟨rfl, rfl⟩ := h₃
        exact .inr ⟨e, he, rfl, leads_nil.mp hu₃⟩

/-- A company is removed if there is one. -/
theorem delete_effect {id : Uuid} {x : Except Failure Unit} (h : Program.Ends (delete id).run u x)
    (hu : Leads Registry.Step r u r') :
    ((r.find? id).isSome ∧ x = .ok () ∧ r' = r.erase id) ∨
      (r.find? id = none ∧ x = .error (missing id) ∧ r' = r) := by
  obtain ⟨y, u₁, rfl, h₁⟩ := h
  obtain ⟨r₁, hremove, hu₁⟩ := leads_cons.mp hu
  obtain ⟨rfl, rfl⟩ := step_remove.mp hremove
  cases hc : r.contains id with
  | true =>
    rw [hc] at h₁
    obtain ⟨_, u₂, rfl, rfl, rfl⟩ := h₁
    obtain ⟨r₁, hlog, hu₂⟩ := leads_cons.mp hu₁
    obtain rfl : r₁ = r.erase id := hlog
    exact .inl ⟨by rw [← contains_eq_isSome, hc], rfl, leads_nil.mp hu₂⟩
  | false =>
    rw [hc] at h₁
    obtain ⟨rfl, rfl⟩ := h₁
    rw [contains_eq_isSome, Option.isSome_eq_false_iff, Option.isNone_iff_eq_none] at hc
    refine .inr ⟨hc, rfl, ?_⟩
    rw [leads_nil.mp hu₁, erase_of_not_contains]
    rw [contains_eq_isSome, hc]
    rfl

/-- A new company is stored under its identifier, or nothing is changed. -/
theorem written_of_create {d : Company.Draft} {x : Except Failure Company}
    (h : Program.Ends (create d).run u x) (hu : Leads Registry.Step r u r') :
    (∃ e, x = .error e ∧ r' = r) ∨
      ∃ c, x = .ok c ∧ r'.find? = Function.update r.find? c.id (some c) := by
  rcases create_effect h hu with ⟨e, -, rfl, hr⟩ | ⟨now, id, -, -, -, ⟨hok, rfl⟩ | ⟨e, -, rfl, hr⟩⟩
  · exact .inl ⟨_, rfl, hr⟩
  · exact .inr ⟨_, rfl, find?_eq_update_of_insert hok⟩
  · exact .inl ⟨_, rfl, hr⟩

/-- A changed company is stored under its identifier, or nothing is changed. -/
theorem written_of_update {p : Company.Patch} {x : Except Failure Company}
    (h : Program.Ends (update p).run u x) (hu : Leads Registry.Step r u r') :
    (∃ e, x = .error e ∧ r' = r) ∨
      ∃ c, x = .ok c ∧ r'.find? = Function.update r.find? c.id (some c) := by
  rcases update_effect h hu with ⟨e, -, rfl, hr⟩ | ⟨-, -, rfl, hr⟩ |
    ⟨c, now, -, -, -, ⟨hok, rfl⟩ | ⟨e, -, rfl, hr⟩⟩
  · exact .inl ⟨_, rfl, hr⟩
  · exact .inl ⟨_, rfl, hr⟩
  · exact .inr ⟨_, rfl, find?_eq_update_of_replace hok⟩
  · exact .inl ⟨_, rfl, hr⟩

/-- Nothing is stored any more under the identifier of a deleted company, or nothing is changed. -/
theorem erased_of_delete {id : Uuid} {x : Except Failure Unit}
    (h : Program.Ends (delete id).run u x) (hu : Leads Registry.Step r u r') :
    (∃ e, x = .error e ∧ r' = r) ∨
      x = .ok () ∧ r'.find? = Function.update r.find? id none := by
  rcases delete_effect h hu with ⟨-, rfl, rfl⟩ | ⟨-, rfl, hr⟩
  · exact .inr ⟨rfl, find?_erase_eq_update r id⟩
  · exact .inl ⟨_, rfl, hr⟩

end Service

end Gatehouse
