import Gatehouse.Proofs.Gate.Completion
import Gatehouse.Proofs.Gate.Discretion

/-!
# What stops a request

A request that fails has been stopped by something that its run shows: a look at the signal that
found it cancelled, an answer of the verifier, a check that went against the caller, malformed
input, or an answer of the store. Which of these it was decides what the request fails with.

`Accounts` says of a program that every run of it in which it fails shows a reason. It passes
through sequencing, so that pipelines are gone through step by step.
-/

namespace Gatehouse

/-! ## Accounts of failures -/

/-- Whenever the program fails after a given run, the whole run shows the reason. -/
def Program.Accounts {S : Signature} {α : Type} (R : Trace S → Failure → Prop) (before : Trace S)
    (p : Program S (Except Failure α)) : Prop :=
  ∀ t e, p.Ends t (.error e) → R (before ++ t) e

namespace Attempt

variable {S : Signature} {α β : Type} {R : Trace S → Failure → Prop} {before : Trace S}

/-- Only what comes after a success need account for its failures besides. -/
theorem accounts_andThen {p : Program S (Except Failure α)}
    {k : Except Failure α → Program S (Except Failure β)} (hp : p.Accounts R before)
    (hk : ∀ t a, p.Ends t (.ok a) → (k (.ok a)).Accounts R (before ++ t))
    (he : ∀ e, k (.error e) = .done (.error e)) : (p.bind k).Accounts R before := by
  intro t e h
  obtain ⟨x, t₁, h₁, t₂, rfl, h₂⟩ := Program.ends_bind.mp h
  cases x with
  | ok a =>
    rw [← List.append_assoc]
    exact hk t₁ a h₁ t₂ e h₂
  | error e' =>
    rw [he] at h₂
    obtain ⟨rfl, hout⟩ := h₂
    cases hout
    rw [List.append_nil]
    exact hp t₁ e h₁

/-- However the attempt fails after a given run, the whole run shows the reason. -/
def Accounts (R : Trace S → Failure → Prop) (before : Trace S) (x : Attempt S α) : Prop :=
  Program.Accounts R before x.run

theorem Accounts.bind {x : Attempt S α} {f : α → Attempt S β} (hx : Accounts R before x)
    (hf : ∀ t a, Yields x t a → Accounts R (before ++ t) (f a)) : Accounts R before (x >>= f) := by
  rw [Accounts, run_bind]
  exact accounts_andThen hx hf fun _ => rfl

theorem accounts_of_not_fails {x : Attempt S α} (h : ∀ t e, ¬Fails x t e) : Accounts R before x :=
  fun t e hfails => absurd hfails (h t e)

end Attempt

namespace Gate

open Attempt

variable {Op : Type} {K : Resource} {α β ι : Type}

/-- What a run shows to have stopped a request for an operation, and what it then fails with. -/
inductive Setback [OperationSet Op] (g : Gate Op K) (c : Caller) (op : Op)
    (input : Except Failure ι) (t : Trace (gateSignature K)) : Failure → Prop where
  /-- A look at the signal has found the request cancelled. -/
  | cancelled (look : ⟨.poll, true⟩ ∈ t) : Setback g c op input t .cancelled
  | credential (why : AuthError) (answer : ⟨.verify c.token, .error why⟩ ∈ t) :
    Setback g c op input t (.ofAuth why)
  /-- The coarse check was against the caller. -/
  | coarse (s : Option Subject) (why : PolicyError) (found : ⟨.verify c.token, .ok s⟩ ∈ t)
    (verdict : (g.evaluator.judgeOperation s op).1 = .error why) :
    Setback g c op input t (.ofPolicy why)
  /-- The check of a target was against the caller. -/
  | fine (s : Option Subject) (target : Target K) (why : PolicyError)
    (found : ⟨.verify c.token, .ok s⟩ ∈ t)
    (verdict : (g.evaluator.judgeObject s op target).1 = .error why) :
    Setback g c op input t (.ofPolicy why)
  | input (why : Failure) (malformed : input = .error why) : Setback g c op input t why
  | store (call : StoreCall K) (x : call.Answer) (why : Failure) (answer : ⟨.store call, x⟩ ∈ t)
    (refused : call.Refuses x why) : Setback g c op input t why

/-! ## Requests -/

section Requests

variable {R : Trace (gateSignature K) → Failure → Prop} {before : Trace (gateSignature K)}

theorem accounts_request {x : Attempt (gateSignature K) α}
    {f : α → Attempt (gateSignature K) (Plan (gateSignature K) K.Entity (Except Failure β))}
    (hx : Accounts R before x)
    (hf : ∀ t a, Yields x t a → (request (f a)).carryOut.Accounts R (before ++ t)) :
    (request (x >>= f)).carryOut.Accounts R before := by
  rw [carryOut_request_bind]
  exact accounts_andThen hx hf fun _ => rfl

/-- A request whose answer is known has no failure left. -/
theorem accounts_answer (b : β) :
    (request (K := K) (pure (.answer (.ok b)))).carryOut.Accounts R before := by
  intro t e h
  cases h.2

/-- A request whose task is all that is left fails as the task does. -/
theorem accounts_task {work : Attempt (gateSignature K) K.Entity}
    {finish : Except Failure K.Entity → Except Failure β} (hwork : Accounts R before work)
    (hfinish : ∀ y e, finish y = .error e → y = .error e) :
    (request (pure (.task work finish))).carryOut.Accounts R before := by
  intro t e h
  obtain ⟨y, t₁, h₁, t₂, rfl, rfl, h₂⟩ :=
    Program.ends_bind.mp (show (Plan.carryOut (.task work finish)).Ends t (.error e) from h)
  rw [hfinish y e h₂] at h₁
  rw [List.append_nil]
  exact hwork t₁ e h₁

end Requests

/-! ## Steps -/

section Steps

variable [OperationSet Op] {g : Gate Op K} {c : Caller} {op : Op} {input : Except Failure ι}
  {before : Trace (gateSignature K)}

theorem accounts_checkpoint : Accounts (Setback g c op input) before checkpoint := by
  intro t e h
  obtain ⟨rfl, rfl⟩ := fails_checkpoint.mp h
  exact .cancelled (by simp [cancelledRun])

theorem accounts_given : Accounts (Setback g c op input) before (given (K := K) input) := by
  intro t e h
  exact .input e (fails_given.mp h).2

theorem accounts_storing {call : StoreCall K} {hc : call.Answer = Except Failure α}
    (hrefuses : ∀ x e, hc ▸ x = Except.error e → call.Refuses x e) :
    Accounts (Setback g c op input) before (storing call hc) := by
  intro t e h
  obtain ⟨x, rfl, hx⟩ := fails_storing.mp h
  exact .store call x e (by simp) (hrefuses x e hx)

theorem accounts_fetch {id : K.Id} : Accounts (Setback g c op input) before (fetch id) := by
  intro t e h
  rcases fails_fetch.mp h with ⟨rfl, rfl⟩ | rfl
  · exact .cancelled (by simp [cancelledRun])
  · exact .store (.get id) (.error e) e (by simp) rfl

theorem accounts_authorizeObject {s : Option Subject} {target : Target K}
    (hs : ⟨.verify c.token, .ok s⟩ ∈ before) :
    Accounts (Setback g c op input) before (g.authorizeObject s op target) := by
  intro t e h
  rcases fails_authorizeObject.mp h with ⟨rfl, rfl⟩ | ⟨hdenied, rfl, rfl⟩
  · exact .cancelled (by simp [cancelledRun])
  · refine .fine s target .permissionDenied (List.mem_append_left _ hs) ?_
    rw [Evaluator.judgeObject_fst, if_neg hdenied]

/-- The task of a pipeline fails only with its call on the store. -/
theorem accounts_work {σ : Type} {m : Mutation K ι σ β} {i : ι} {seen : σ} :
    Accounts (Setback g c op input) before (m.work i seen) := by
  refine (accounts_storing fun x e h => (m.refuses_iff i x e).mpr h).bind fun _ _ _ => ?_
  refine (accounts_of_not_fails fun _ _ => fails_say).bind fun _ _ _ => ?_
  refine (accounts_of_not_fails fun _ _ => fails_announce).bind fun _ _ _ => ?_
  exact accounts_of_not_fails fun _ _ => fails_pure

/-- The front of a pipeline, and what comes after it for a caller who was found out. -/
theorem accounts_admitting
    {rest : Option Subject →
      Attempt (gateSignature K) (Plan (gateSignature K) K.Entity (Except Failure β))}
    (hrest : ∀ s before, ⟨.verify c.token, .ok s⟩ ∈ before →
      (request (rest s)).carryOut.Accounts (Setback g c op input) before) :
    (request (g.admitting c op rest)).carryOut.Accounts (Setback g c op input) [] := by
  rw [admitting_eq]
  refine accounts_request (fun t e h => ?_) fun t s h => ?_
  · rcases fails_admitting.mp h with ⟨rfl | ⟨s, rfl⟩, rfl⟩ | ⟨why, rfl, rfl⟩ |
      ⟨s, hdenied, rfl, rfl⟩ | ⟨s, -, u, rfl, hu⟩
    · exact .cancelled (by simp [cancelledRun])
    · exact .cancelled (by simp [cancelledRun])
    · exact .credential why (by simp [rejectedRun])
    · refine .coarse s .permissionDenied (by simp [authenticatedRun]) ?_
      rw [Evaluator.judgeOperation_fst, if_neg hdenied]
    · exact absurd hu fails_pure
  · obtain ⟨-, rfl⟩ := yields_front.mp h
    exact hrest s _ (by simp [admittedRun, authenticatedRun])

end Steps

/-! ## Pipelines -/

section Pipelines

variable [PipelineSet Op] (g : Gate Op K) (c : Caller) {t : Trace (gateSignature K)} {e : Failure}

/-- A pipeline that changes something, if its reading fails for a reason. -/
theorem setback_mutation {σ : Type} {m : Mutation K ι σ β} {op : Op} {input : Except Failure ι}
    (hsee : ∀ i before, Accounts (Setback g c op input) before (m.see i))
    (hfinish : ∀ y e, m.finish y = .error e → y = .error e)
    (h : (request (m.checks g c op input)).carryOut.Ends t (.error e)) :
    Setback g c op input t e := by
  refine accounts_admitting (fun s before hs => ?_) t e h
  refine accounts_request accounts_given fun _ i _ => ?_
  refine accounts_request (hsee i _) fun _ seen _ => ?_
  refine accounts_request (accounts_authorizeObject (by simp [hs])) fun _ _ _ => ?_
  refine accounts_request accounts_checkpoint fun _ _ _ => ?_
  exact accounts_task accounts_work hfinish

theorem setback_create {input : Except Failure K.Draft}
    (h : (g.create c input).carryOut.Ends t (.error e)) :
    Setback g c PipelineSet.create input t e :=
  setback_mutation g c (m := creation) (fun _ _ => accounts_of_not_fails fun _ _ => fails_pure)
    (fun _ _ hy => hy) h

theorem setback_update {input : Except Failure K.Patch}
    (h : (g.update c input).carryOut.Ends t (.error e)) :
    Setback g c PipelineSet.update input t e :=
  setback_mutation g c (m := alteration) (fun _ _ => accounts_fetch) (fun _ _ hy => hy) h

theorem setback_delete {input : Except Failure K.Id}
    (h : (g.delete c input).carryOut.Ends t (.error e)) :
    Setback g c PipelineSet.delete input t e := by
  refine setback_mutation g c (m := removal) (fun _ _ => accounts_fetch) (fun y e hy => ?_) h
  cases y with
  | ok entity => cases hy
  | error why =>
    cases hy
    rfl

theorem setback_get {input : Except Failure K.Id}
    (h : (g.get c input).carryOut.Ends t (.error e)) :
    Setback g c PipelineSet.detail input t e := by
  refine accounts_admitting (fun s before hs => ?_) t e h
  refine accounts_request accounts_given fun _ id _ => ?_
  refine accounts_request accounts_fetch fun _ entity _ => ?_
  refine accounts_request (accounts_authorizeObject (by simp [hs])) fun _ _ _ => ?_
  refine accounts_request (accounts_of_not_fails fun _ _ => fails_say) fun _ _ _ => ?_
  exact accounts_answer entity

theorem setback_list {input : Except Failure K.Filter}
    (h : (g.list c input).carryOut.Ends t (.error e)) :
    Setback g c PipelineSet.list input t e := by
  refine accounts_admitting (fun s before hs => ?_) t e h
  refine accounts_request accounts_given fun _ filter _ => ?_
  refine accounts_request (accounts_authorizeObject (by simp [hs])) fun _ _ _ => ?_
  refine accounts_request accounts_checkpoint fun _ _ _ => ?_
  refine accounts_request (accounts_storing fun _ _ hx => hx) fun _ items _ => ?_
  refine accounts_request (accounts_storing fun _ _ hx => hx) fun _ total _ => ?_
  refine accounts_request (accounts_of_not_fails fun _ _ => fails_say) fun _ _ _ => ?_
  exact accounts_answer _

theorem setback_authorize {op : Op} (h : (g.authorize c op).carryOut.Ends t (.error e)) :
    Setback g c op (Except.ok ()) t e :=
  accounts_admitting (fun s _ _ => accounts_answer s) t e h

end Pipelines

end Gate

end Gatehouse
