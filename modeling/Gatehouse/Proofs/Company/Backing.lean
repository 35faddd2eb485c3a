import Gatehouse.Proofs.Gate.Front

/-!
# The service behind the gate

A run of the whole system is a run of the gate in which every call on the store is answered by a run
of the service. Two facts about it matter to whoever looks at a request from outside: the questions
that are not about the store get the same answers, and the service never denies anything, since it
fails with errors of the registry alone.
-/

namespace Gatehouse

open Attempt

namespace Service

/-! ## Failures of the service -/

/-- Failures that an error of the registry stands for. -/
def FromRegistry (f : Failure) : Prop := ∃ e, f = .ofRegistry e

theorem FromRegistry.ne_permissionDenied {f : Failure} (h : FromRegistry f) :
    f ≠ .permissionDenied := by
  obtain ⟨e, rfl⟩ := h
  cases e <;> simp [Failure.ofRegistry]

variable {α : Type}

theorem failsOnly_asking (q : SystemCall) : FailsOnly FromRegistry (asking q) := by
  rintro t e ⟨x, u, rfl, rfl, h⟩
  cases h

theorem failsOnly_orFail (x : Except RegistryError α) : FailsOnly FromRegistry (orFail x) := by
  rintro t e ⟨rfl, h⟩
  cases x with
  | ok a => cases h
  | error why =>
    cases h
    exact ⟨why, rfl⟩

theorem failsOnly_get (id : Uuid) : FailsOnly FromRegistry (get id) := by
  refine (failsOnly_asking _).bind fun _ => (failsOnly_asking _).bind fun x => ?_
  refine (failsOnly_orFail x).bind fun found => ?_
  cases found with
  | some c => exact failsOnly_pure
  | none => exact failsOnly_orFail _

theorem failsOnly_create (d : Company.Draft) : FailsOnly FromRegistry (create d) := by
  refine (failsOnly_orFail _).bind fun _ => (failsOnly_asking _).bind fun now => ?_
  refine (failsOnly_asking _).bind fun id => (failsOnly_asking _).bind fun x => ?_
  exact (failsOnly_orFail x).bind fun c => (failsOnly_asking _).bind fun _ => failsOnly_pure

theorem failsOnly_update (p : Company.Patch) : FailsOnly FromRegistry (update p) := by
  refine (failsOnly_orFail _).bind fun _ => (failsOnly_asking _).bind fun x => ?_
  refine (failsOnly_orFail x).bind fun found => ?_
  cases found with
  | none => exact failsOnly_orFail _
  | some c =>
    refine (failsOnly_asking _).bind fun now => (failsOnly_asking _).bind fun y => ?_
    exact (failsOnly_orFail y).bind fun c => (failsOnly_asking _).bind fun _ => failsOnly_pure

theorem failsOnly_delete (id : Uuid) : FailsOnly FromRegistry (delete id) := by
  refine (failsOnly_asking _).bind fun x => (failsOnly_orFail x).bind fun found => ?_
  cases found with
  | true => exact failsOnly_asking _
  | false => exact failsOnly_orFail _

theorem failsOnly_list (s : PagingSettings) (f : Company.Filter) :
    FailsOnly FromRegistry (list s f) := by
  refine (failsOnly_orFail _).bind fun page => (failsOnly_asking _).bind fun x => ?_
  exact (failsOnly_orFail x).bind fun cs => (failsOnly_asking _).bind fun _ => failsOnly_pure

theorem failsOnly_count (f : Company.Filter) : FailsOnly FromRegistry (count f) :=
  (failsOnly_asking _).bind fun x => failsOnly_orFail x

/-- Whatever is asked of the store, the service fails with errors of the registry only. -/
theorem fromRegistry_of_store {s : PagingSettings} {c : StoreCall Company.resource}
    {x : c.Answer} {u : Trace systemSignature} {e : Failure}
    (h : Program.Ends (store s c) u x) (he : c.Refuses x e) : FromRegistry e := by
  cases c with
  | get id => cases he; exact failsOnly_get id u e h
  | create d => cases he; exact failsOnly_create d u e h
  | update p => cases he; exact failsOnly_update p u e h
  | delete id => cases he; exact failsOnly_delete id u e h
  | list f => cases he; exact failsOnly_list s f u e h
  | count f => cases he; exact failsOnly_count f u e h

end Service

/-! ## Runs of the whole system -/

/-- A run of the whole system in which the request is never found cancelled, with a verifier that
gives these answers. -/
structure Attended (verify : Option String → Except AuthError (Option Subject))
    (v : Trace systemSignature) : Prop where
  wanted : ∀ b, ⟨.poll, b⟩ ∈ v → b = false
  verified : ∀ c x, ⟨.verify c, x⟩ ∈ v → x = verify c

/-- A run of the gate that the service can be behind: the store answers as some run of the service
does. -/
def Backed (s : PagingSettings) (t : Trace (gateSignature Company.resource)) : Prop :=
  ∀ c x, ⟨.store c, x⟩ ∈ t → ∃ u, Program.Ends (Service.store s c) u x

namespace CompanyGate

variable {s : PagingSettings} {verify : Option String → Except AuthError (Option Subject)}

/-- The gate sees the surroundings as the system does. -/
theorem attended_of_implements {t : Trace (gateSignature Company.resource)}
    {v : Trace systemSignature} (h : Program.Implements (Service.answering s) t v)
    (hv : Attended verify v) : Gate.Attended verify t where
  wanted b hb := by
    obtain ⟨u, ⟨x, w, rfl, rfl, rfl⟩, hsub⟩ := h.exists_part hb
    exact hv.wanted _ (hsub _ List.mem_cons_self)
  verified c x hx := by
    obtain ⟨u, ⟨y, w, rfl, rfl, rfl⟩, hsub⟩ := h.exists_part hx
    exact hv.verified _ _ (hsub _ List.mem_cons_self)

theorem backed_of_implements {t : Trace (gateSignature Company.resource)}
    {v : Trace systemSignature} (h : Program.Implements (Service.answering s) t v) :
    Backed s t := by
  intro c x hx
  obtain ⟨u, hu, _⟩ := h.exists_part hx
  exact ⟨u, hu⟩

/-- What a request to the whole system ends with is what it ends with at the gate. -/
theorem ends_of_withService {β : Type} {r : Request (gateSignature Company.resource) Company β}
    {v : Trace systemSignature} {b : β} (h : (withService s r).carryOut.Ends v b)
    (hv : Attended verify v) :
    ∃ t, r.carryOut.Ends t b ∧ Gate.Attended verify t ∧ Backed s t := by
  rw [withService, Request.carryOut_refine] at h
  obtain ⟨t, ht, himp⟩ := Program.ends_refine.mp h
  exact ⟨t, ht, attended_of_implements himp hv, backed_of_implements himp⟩

end CompanyGate

end Gatehouse
