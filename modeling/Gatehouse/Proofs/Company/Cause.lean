import Gatehouse.Proofs.Company.Errand
import Gatehouse.Proofs.Company.Flaws
import Gatehouse.Proofs.Gate.Setback

/-!
# Why requests fail

A request for companies that fails does so for a cause that its run shows, and each cause is worded
by whoever found it out: the verifier, a table of checkers, the reader of the input, the registry.
What callers are to know about it is much less, its kind.
-/

namespace Gatehouse

open Attempt

/-- Why a request fails, with all that is known about it. -/
inductive Cause where
  | cancelled
  | auth (why : AuthError)
  | policy (why : PolicyError)
  | input (why : Failure)
  | registry (why : RegistryError)
  /-- The task of the request has broken down. -/
  | breakdown

namespace Failure

/-- What callers are to know about a failure. -/
inductive Kind where
  | credential
  | denial
  | invalid (field message : String)
  | missing (resource id : String)
  | internal (code : String)

/-- The kind of a failure. -/
def kind : Failure → Kind
  | badToken => .credential
  | permissionDenied => .denial
  | invalid field message => .invalid field message
  | notFound resource id => .missing resource id
  | unexpected message => .internal (unexpected message).code
  | cancelled => .internal cancelled.code

end Failure

namespace Cause

/-- What a request fails with for a cause. -/
def failure : Cause → Failure
  | cancelled => .cancelled
  | auth why => .ofAuth why
  | policy why => .ofPolicy why
  | input why => why
  | registry why => .ofRegistry why
  | breakdown => Plan.breakdown

/-- What callers are to know about a cause: that a credential was rejected, but not why; that a
policy is against them, but not which; and about faults of the service no more than a code. -/
def kind : Cause → Failure.Kind
  | auth (.invalidToken _) => .credential
  | policy _ => .denial
  | input why => why.kind
  | registry (.invalid field message) => .invalid field message
  | registry (.notFound id) => .missing "company" id.text
  | auth (.settings _) | registry (.storage _) | breakdown => .internal "unexpected_behavior"
  | cancelled => .internal "cancelled"

/-- A failure keeps the kind of its cause. -/
theorem kind_failure (x : Cause) : x.failure.kind = x.kind := by
  cases x with
  | auth why => cases why <;> rfl
  | policy why => cases why <;> rfl
  | registry why => cases why <;> rfl
  | cancelled | input _ | breakdown => rfl

end Cause

/-! ## Errors of the service -/

namespace Service

/-- Where the service has an error from: it is an answer of the registry, or a verdict of the
service itself, which knows nothing of the storage. -/
inductive Grounds (v : Trace systemSignature) : RegistryError → Prop where
  | answered (call : RegistryCall) (why : RegistryError)
    (answer : ⟨.registry call, call.failed why⟩ ∈ v) : Grounds v why
  | judged (why : RegistryError) (own : ∀ message, why ≠ .storage message) : Grounds v why

theorem Grounds.mono {v w : Trace systemSignature} {why : RegistryError} (h : Grounds v why)
    (hvw : v ⊆ w) : Grounds w why := by
  cases h with
  | answered call why answer => exact .answered call why (hvw answer)
  | judged why own => exact .judged why own

/-- A run shows where the error comes from that a failure stands for. -/
def Grounded (v : Trace systemSignature) (f : Failure) : Prop :=
  ∃ why, Grounds v why ∧ f = .ofRegistry why

variable {α β : Type} {before : Trace systemSignature}

theorem accounts_asking (q : SystemCall) : Accounts Grounded before (asking q) := by
  rintro t e ⟨x, u, rfl, rfl, h⟩
  cases h

theorem accounts_pure (a : α) : Accounts Grounded before (pure a : Part α) :=
  accounts_of_not_fails fun _ _ => fails_pure

theorem accounts_orFail {x : Except RegistryError α}
    (h : ∀ why, x = .error why → ∀ message, why ≠ .storage message) :
    Accounts Grounded before (orFail x) := by
  rintro t e ⟨rfl, he⟩
  cases x with
  | ok a => cases he
  | error why =>
    cases he
    exact ⟨why, .judged why (h why rfl), rfl⟩

/-- A call on the registry whose error is that of the service. -/
theorem accounts_registry {call : RegistryCall} {f : call.Answer → Part β}
    (hfailed : ∀ why, (f (call.failed why)).run = .done (.error (.ofRegistry why)))
    (hf : ∀ x t, (∀ why, x ≠ call.failed why) → Accounts Grounded (before ++ t) (f x)) :
    Accounts Grounded before (asking (.registry call) >>= f) := by
  rintro t e ⟨x, u, rfl, hu⟩
  by_cases hx : ∃ why, x = call.failed why
  · obtain ⟨why, rfl⟩ := hx
    have hrest : Program.Ends (f (call.failed why)).run u (.error e) := hu
    rw [hfailed why] at hrest
    obtain ⟨rfl, he⟩ := hrest
    cases he
    exact ⟨why, .answered call why (by simp), rfl⟩
  · have haccounts := hf x [⟨.registry call, x⟩] (not_exists.mp hx) u e hu
    simpa using haccounts

/-! What the service judges itself is no fault of the storage. -/

theorem own_of_draft {d : Company.Draft} {why : RegistryError}
    (h : d.validate = .error why) (message : String) : why ≠ .storage message := by
  rw [Company.Draft.validate_eq] at h
  obtain ⟨_, _, _, -, rfl⟩ := Company.Flaws.exists_of_verdict h
  simp

theorem own_of_patch {p : Company.Patch} {why : RegistryError}
    (h : p.validate = .error why) (message : String) : why ≠ .storage message := by
  rw [Company.Patch.validate_eq] at h
  obtain ⟨_, _, _, -, rfl⟩ := Company.Flaws.exists_of_verdict h
  simp

theorem own_of_keys {entries : List String} {why : RegistryError}
    (h : SortKey.parseAll entries = .error why) (message : String) : why ≠ .storage message := by
  induction entries with
  | nil => cases h
  | cons entry entries ih =>
    rw [SortKey.parseAll] at h
    cases hkey : SortKey.parse entry with
    | error e =>
      rw [hkey] at h
      cases h
      rw [SortKey.parse] at hkey
      split at hkey
      · cases hkey
      · cases hkey
        simp
    | ok key =>
      cases hkeys : SortKey.parseAll entries with
      | error e =>
        rw [hkey, hkeys] at h
        cases h
        exact ih hkeys
      | ok keys =>
        rw [hkey, hkeys] at h
        cases h

theorem own_of_limit {s : PagingSettings} {requested : Option UInt64} {why : RegistryError}
    (h : Page.limitOf s requested = .error why) (message : String) : why ≠ .storage message := by
  cases requested with
  | none => cases h
  | some size =>
    rw [Page.limitOf] at h
    split at h
    · cases h
      simp
    · cases h

theorem own_of_page {s : PagingSettings} {f : Company.Filter} {why : RegistryError}
    (h : Page.ofFilter s f = .error why) (message : String) : why ≠ .storage message := by
  rw [Page.ofFilter] at h
  cases hlimit : Page.limitOf s f.pageSize with
  | error e =>
    rw [hlimit] at h
    cases h
    exact own_of_limit hlimit message
  | ok limit =>
    cases horder : SortKey.parseAll f.orderBy with
    | error e =>
      rw [hlimit, horder] at h
      cases h
      exact own_of_keys horder message
    | ok order =>
      rw [hlimit, horder] at h
      cases h

/-- What is missing is the service's own finding. -/
theorem accounts_missing (id : Uuid) :
    Accounts Grounded before (orFail (α := α) (.error (.notFound id))) :=
  accounts_orFail fun why hwhy message => by
    cases hwhy
    simp

theorem accounts_get (id : Uuid) : Accounts Grounded before (get id) := by
  refine (accounts_asking _).bind fun _ _ _ => ?_
  refine accounts_registry (fun _ => rfl) fun x t hx => ?_
  cases x with
  | error why => exact absurd rfl (hx why)
  | ok found =>
    cases found with
    | some c => exact accounts_pure c
    | none => exact accounts_missing id

theorem accounts_create (d : Company.Draft) : Accounts Grounded before (create d) := by
  refine (accounts_orFail fun _ => own_of_draft).bind fun _ _ _ => ?_
  refine (accounts_asking _).bind fun _ now _ => (accounts_asking _).bind fun _ id _ => ?_
  refine accounts_registry (fun _ => rfl) fun x t hx => ?_
  cases x with
  | error why => exact absurd rfl (hx why)
  | ok c => exact (accounts_asking _).bind fun _ _ _ => accounts_pure c

theorem accounts_update (p : Company.Patch) : Accounts Grounded before (update p) := by
  refine (accounts_orFail fun _ => own_of_patch).bind fun _ _ _ => ?_
  refine accounts_registry (fun _ => rfl) fun x t hx => ?_
  cases x with
  | error why => exact absurd rfl (hx why)
  | ok found =>
    cases found with
    | none => exact accounts_missing p.id
    | some c =>
      refine (accounts_asking _).bind fun _ now _ => ?_
      refine accounts_registry (fun _ => rfl) fun y u hy => ?_
      cases y with
      | error why => exact absurd rfl (hy why)
      | ok d => exact (accounts_asking _).bind fun _ _ _ => accounts_pure d

theorem accounts_delete (id : Uuid) : Accounts Grounded before (delete id) := by
  refine accounts_registry (fun _ => rfl) fun x t hx => ?_
  cases x with
  | error why => exact absurd rfl (hx why)
  | ok found =>
    cases found with
    | true => exact accounts_asking _
    | false => exact accounts_missing id

theorem accounts_list (s : PagingSettings) (f : Company.Filter) :
    Accounts Grounded before (list s f) := by
  refine (accounts_orFail fun _ => own_of_page).bind fun _ page _ => ?_
  refine accounts_registry (fun _ => rfl) fun x t hx => ?_
  cases x with
  | error why => exact absurd rfl (hx why)
  | ok cs => exact (accounts_asking _).bind fun _ _ _ => accounts_pure cs

theorem accounts_count (f : Company.Filter) : Accounts Grounded before (count f) := by
  refine accounts_registry (fun _ => rfl) fun x t hx => ?_
  cases x with
  | error why => exact absurd rfl (hx why)
  | ok n => exact accounts_pure n

/-- Whatever is asked of the store, its failures have grounds. -/
theorem grounded_of_store {s : PagingSettings} {call : StoreCall Company.resource}
    {x : call.Answer} {u : Trace systemSignature} {f : Failure}
    (h : Program.Ends (store s call) u x) (hx : call.Refuses x f) : Grounded u f := by
  cases call with
  | get id => cases hx; exact @accounts_get [] id u f h
  | create d => cases hx; exact @accounts_create [] d u f h
  | update p => cases hx; exact @accounts_update [] p u f h
  | delete id => cases hx; exact @accounts_delete [] id u f h
  | list filter => cases hx; exact @accounts_list [] s filter u f h
  | count filter => cases hx; exact @accounts_count [] filter u f h

end Service

/-! ## Causes shown by runs -/

namespace Errand

/-- The operation that a request is checked for. -/
def operation : Errand → Operation
  | create _ => .create
  | get _ => .detail
  | list _ => .list
  | update _ => .update
  | delete _ => .delete
  | authorize op => op

/-- What is wrong with the input of a request. -/
def fault? : Errand → Option Failure
  | create (.error why) | get (.error why) | list (.error why) | update (.error why)
  | delete (.error why) => some why
  | _ => none

/-- What a run of the whole system shows to have thwarted a request. -/
inductive Thwarted (g : CompanyGate) (c : Caller) (e : Errand) (v : Trace systemSignature) :
    Cause → Prop where
  | cancelled (look : ⟨.poll, true⟩ ∈ v) : Thwarted g c e v .cancelled
  | auth (why : AuthError) (answer : ⟨.verify c.token, .error why⟩ ∈ v) :
    Thwarted g c e v (.auth why)
  | coarse (sub : Option Subject) (why : PolicyError) (found : ⟨.verify c.token, .ok sub⟩ ∈ v)
    (verdict : (g.evaluator.judgeOperation sub e.operation).1 = .error why) :
    Thwarted g c e v (.policy why)
  | fine (sub : Option Subject) (target : Target Company.resource) (why : PolicyError)
    (found : ⟨.verify c.token, .ok sub⟩ ∈ v)
    (verdict : (g.evaluator.judgeObject sub e.operation target).1 = .error why) :
    Thwarted g c e v (.policy why)
  | input (why : Failure) (malformed : e.fault? = some why) : Thwarted g c e v (.input why)
  | registry (why : RegistryError) (grounds : Service.Grounds v why) :
    Thwarted g c e v (.registry why)

variable {g : CompanyGate} {s : PagingSettings} {c : Caller} {e : Errand}
  {v : Trace systemSignature} {f : Failure}

/-- What a run of the gate shows, the run of the whole system shows. -/
theorem exists_thwarted_of_setback {ι : Type} {input : Except Failure ι}
    {t : Trace (gateSignature Company.resource)}
    (himp : Program.Implements (Service.answering s) t v)
    (h : Gate.Setback g c e.operation input t f)
    (hinput : ∀ why, input = .error why → e.fault? = some why) :
    ∃ x, Thwarted g c e v x ∧ f = x.failure := by
  have hverify : ∀ {x}, ⟨.verify c.token, x⟩ ∈ t → ⟨.verify c.token, x⟩ ∈ v := by
    intro x hx
    obtain ⟨u, ⟨y, w, rfl, rfl, rfl⟩, hsub⟩ := himp.exists_part hx
    exact hsub _ List.mem_cons_self
  cases h with
  | cancelled look =>
    obtain ⟨u, ⟨y, w, rfl, rfl, rfl⟩, hsub⟩ := himp.exists_part look
    exact ⟨.cancelled, .cancelled (hsub _ List.mem_cons_self), rfl⟩
  | credential why answer => exact ⟨.auth why, .auth why (hverify answer), rfl⟩
  | coarse sub why found verdict =>
    exact ⟨.policy why, .coarse sub why (hverify found) verdict, rfl⟩
  | fine sub target why found verdict =>
    exact ⟨.policy why, .fine sub target why (hverify found) verdict, rfl⟩
  | input why malformed => exact ⟨.input f, .input f (hinput f malformed), rfl⟩
  | store call x why answer refused =>
    obtain ⟨u, hu, hsub⟩ := himp.exists_part answer
    obtain ⟨err, hgrounds, rfl⟩ := Service.grounded_of_store hu refused
    exact ⟨.registry err, .registry err (hgrounds.mono hsub), rfl⟩

/-- An errand passes on the failure of its pipeline. -/
theorem ends_error_of_map {β : Type} {k : β → Result}
    {r : Gatehouse.Request (gateSignature Company.resource) Company (Except Failure β)}
    {t : Trace (gateSignature Company.resource)}
    (h : (r.map fun x => x.map k).carryOut.Ends t (.error f)) : r.carryOut.Ends t (.error f) := by
  obtain ⟨y, hy, hout⟩ := Request.ends_carryOut_map.mp h
  cases y with
  | ok b => cases hout
  | error e =>
    cases hout
    exact hy

/-- A request fails for a cause that its run shows, and with the failure that stands for it. -/
theorem exists_cause (h : (e.request g s c).carryOut.Ends v (.error f)) :
    ∃ x, Thwarted g c e v x ∧ f = x.failure := by
  rw [request, CompanyGate.withService, Request.carryOut_refine] at h
  obtain ⟨t, ht, himp⟩ := Program.ends_refine.mp h
  cases e with
  | create input =>
    refine exists_thwarted_of_setback himp (Gate.setback_create g c (ends_error_of_map ht)) ?_
    rintro why rfl
    rfl
  | get input =>
    refine exists_thwarted_of_setback himp (Gate.setback_get g c (ends_error_of_map ht)) ?_
    rintro why rfl
    rfl
  | list input =>
    refine exists_thwarted_of_setback himp (Gate.setback_list g c (ends_error_of_map ht)) ?_
    rintro why rfl
    rfl
  | update input =>
    refine exists_thwarted_of_setback himp (Gate.setback_update g c (ends_error_of_map ht)) ?_
    rintro why rfl
    rfl
  | delete input =>
    refine exists_thwarted_of_setback himp (Gate.setback_delete g c (ends_error_of_map ht)) ?_
    rintro why rfl
    rfl
  | authorize op =>
    refine exists_thwarted_of_setback himp (Gate.setback_authorize g c (ends_error_of_map ht)) ?_
    rintro why ⟨⟩

end Errand

end Gatehouse
