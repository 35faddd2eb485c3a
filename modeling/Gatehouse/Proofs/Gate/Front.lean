import Gatehouse.Proofs.Gate.Step

/-!
# Fronts of pipelines

All pipelines begin alike: the caller is found out and must pass the coarse check. So the ways in
which they end early are the same, and whoever goes on is the one whom the verifier names. The
pipelines that change something also share their last steps before the change.
-/

namespace Gatehouse.Gate

open Attempt

variable {Op : Type} {K : Resource}

/-! ## Requests -/

/-- A request is planned by its checks, or what they fail with is its answer. -/
theorem ends_request {β : Type}
    {front : Attempt (gateSignature K) (Plan (gateSignature K) K.Entity (Except Failure β))}
    {t : Trace (gateSignature K)} {plan : Plan (gateSignature K) K.Entity (Except Failure β)} :
    (request front).Ends t plan ↔
      Yields front t plan ∨ ∃ e, Fails front t e ∧ plan = .answer (.error e) := by
  rw [request, Program.ends_bind]
  constructor
  · rintro ⟨x, t₁, hx, t₂, rfl, h⟩
    cases x with
    | ok p =>
      obtain ⟨rfl, rfl⟩ := h
      rw [List.append_nil]
      exact .inl hx
    | error e =>
      obtain ⟨rfl, rfl⟩ := h
      rw [List.append_nil]
      exact .inr ⟨e, hx, rfl⟩
  · rintro (h | ⟨e, h, rfl⟩)
    · exact ⟨.ok plan, t, h, [], (List.append_nil t).symm, rfl, rfl⟩
    · exact ⟨.error e, t, h, [], (List.append_nil t).symm, rfl, rfl⟩

/-- A request carried out ends with a failure of its checks, or as its plan does. -/
theorem ends_carryOut_request {β : Type}
    {front : Attempt (gateSignature K) (Plan (gateSignature K) K.Entity (Except Failure β))}
    {t : Trace (gateSignature K)} {x : Except Failure β} :
    (request front).carryOut.Ends t x ↔ (∃ e, Fails front t e ∧ x = .error e) ∨
      ∃ plan t₁, Yields front t₁ plan ∧ ∃ t₂, t = t₁ ++ t₂ ∧ plan.carryOut.Ends t₂ x := by
  rw [Request.carryOut, Program.ends_bind]
  constructor
  · rintro ⟨plan, t₁, hplan, t₂, rfl, ht₂⟩
    rcases ends_request.mp hplan with hy | ⟨e, he, rfl⟩
    · exact .inr ⟨plan, t₁, hy, t₂, rfl, ht₂⟩
    · obtain ⟨rfl, rfl⟩ := ht₂
      rw [List.append_nil]
      exact .inl ⟨e, he, rfl⟩
  · rintro (⟨e, he, rfl⟩ | ⟨plan, t₁, hy, t₂, rfl, ht₂⟩)
    · exact ⟨_, t, ends_request.mpr (.inr ⟨e, he, rfl⟩), [], (List.append_nil t).symm, rfl, rfl⟩
    · exact ⟨plan, t₁, ends_request.mpr (.inl hy), t₂, rfl, ht₂⟩

theorem asksOnly_request {P : GateCall K → Prop} {β : Type}
    {front : Attempt (gateSignature K) (Plan (gateSignature K) K.Entity (Except Failure β))}
    (h : AsksOnly P front) : (request front).AsksOnly P := by
  refine Program.AsksOnly.bind h fun x => ?_
  cases x with
  | ok plan => trivial
  | error e => trivial

/-! ## Admission to an operation -/

section Admission

variable [OperationSet Op] {g : Gate Op K} {s : Option Subject} {op : Op}

/-- The front of every pipeline: the caller is found out, and may ask for the operation. -/
def admitting {α : Type} (g : Gate Op K) (c : Caller) (op : Op)
    (rest : Option Subject → Attempt (gateSignature K) α) : Attempt (gateSignature K) α := do
  let s ← authenticate c
  g.authorizeOperation s op
  rest s

/-- The run of the front of a pipeline for a caller who may go on. -/
def admittedRun (g : Gate Op K) (c : Caller) (op : Op) (s : Option Subject) :
    Trace (gateSignature K) :=
  authenticatedRun c s ++
    (operationRun g s op ++ [⟨.log (passedEntry "operation_authorized" op), ()⟩])

theorem yields_admitting {α : Type} {c : Caller}
    {rest : Option Subject → Attempt (gateSignature K) α} {t : Trace (gateSignature K)} {a : α} :
    Yields (g.admitting c op rest) t a ↔ ∃ s, g.evaluator.operations.allows op s () ∧
      ∃ u, t = admittedRun g c op s ++ u ∧ Yields (rest s) u a := by
  rw [admitting, yields_bind]
  constructor
  · rintro ⟨s, t₁, h₁, t₂, rfl, h₂⟩
    obtain ⟨_, t₃, h₃, t₄, rfl, h₄⟩ := yields_bind.mp h₂
    obtain ⟨hallows, rfl⟩ := yields_authorizeOperation.mp h₃
    rw [yields_authenticate.mp h₁, ← List.append_assoc]
    exact ⟨s, hallows, t₄, rfl, h₄⟩
  · rintro ⟨s, hallows, u, rfl, hu⟩
    refine ⟨s, _, yields_authenticate.mpr rfl, _, List.append_assoc .., yields_bind.mpr ?_⟩
    exact ⟨(), _, yields_authorizeOperation.mpr ⟨hallows, rfl⟩, u, rfl, hu⟩

/-- How a pipeline fails: cancelled, with a bad credential, by the coarse check, or later. -/
theorem fails_admitting {α : Type} {c : Caller}
    {rest : Option Subject → Attempt (gateSignature K) α} {t : Trace (gateSignature K)}
    {e : Failure} :
    Fails (g.admitting c op rest) t e ↔
      ((t = cancelledRun ∨ ∃ s, t = authenticatedRun c s ++ cancelledRun) ∧ e = .cancelled) ∨
      (∃ a, t = rejectedRun c a ∧ e = .ofAuth a) ∨
      (∃ s, ¬g.evaluator.operations.allows op s () ∧
        t = authenticatedRun c s ++ operationRun g s op ∧ e = .permissionDenied) ∨
      ∃ s, g.evaluator.operations.allows op s () ∧
        ∃ u, t = admittedRun g c op s ++ u ∧ Fails (rest s) u e := by
  rw [admitting, fails_bind, fails_authenticate]
  -- Both steps begin with a checkpoint, so a cancelled request may stop at either.
  constructor
  · rintro ((⟨rfl, rfl⟩ | ⟨a, rfl, rfl⟩) | ⟨s, t₁, h₁, t₂, rfl, h₂⟩)
    · exact .inl ⟨.inl rfl, rfl⟩
    · exact .inr (.inl ⟨a, rfl, rfl⟩)
    · obtain rfl := yields_authenticate.mp h₁
      rcases fails_bind.mp h₂ with h₃ | ⟨_, t₃, h₃, t₄, rfl, h₄⟩
      · rcases fails_authorizeOperation.mp h₃ with ⟨rfl, rfl⟩ | ⟨hdenied, rfl, rfl⟩
        · exact .inl ⟨.inr ⟨s, rfl⟩, rfl⟩
        · exact .inr (.inr (.inl ⟨s, hdenied, rfl, rfl⟩))
      · obtain ⟨hallows, rfl⟩ := yields_authorizeOperation.mp h₃
        exact .inr (.inr (.inr ⟨s, hallows, t₄, (List.append_assoc ..).symm, h₄⟩))
  · rintro (⟨rfl | ⟨s, rfl⟩, rfl⟩ | ⟨a, rfl, rfl⟩ | ⟨s, hdenied, rfl, rfl⟩ |
      ⟨s, hallows, u, rfl, hu⟩)
    · exact .inl (.inl ⟨rfl, rfl⟩)
    · refine .inr ⟨s, _, yields_authenticate.mpr rfl, _, rfl, fails_bind.mpr (.inl ?_)⟩
      exact fails_authorizeOperation.mpr (.inl ⟨rfl, rfl⟩)
    · exact .inl (.inr ⟨a, rfl, rfl⟩)
    · refine .inr ⟨s, _, yields_authenticate.mpr rfl, _, rfl, fails_bind.mpr (.inl ?_)⟩
      exact fails_authorizeOperation.mpr (.inr ⟨hdenied, rfl, rfl⟩)
    · refine .inr ⟨s, _, yields_authenticate.mpr rfl, _, List.append_assoc .., fails_bind.mpr ?_⟩
      exact .inr ⟨(), _, yields_authorizeOperation.mpr ⟨hallows, rfl⟩, u, rfl, hu⟩

theorem asksOnly_admitting {P : GateCall K → Prop} (hpoll : P .poll)
    (hlog : ∀ message fields, P (.log (Log.debug message fields))) {c : Caller} {α : Type}
    {rest : Option Subject → Attempt (gateSignature K) α}
    (hverify : P (.verify c.token)) (hconsult : ∀ marks, P (.consult .operation marks))
    (hverdict : ∀ s, P (.log (g.evaluator.judgeOperation s op).2))
    (hrest : ∀ s, AsksOnly P (rest s)) : AsksOnly P (g.admitting c op rest) :=
  (asksOnly_authenticate hpoll hlog hverify).bind fun s =>
    (asksOnly_judged hpoll hlog (hconsult _) (hverdict s) (hlog _ _)).bind fun _ => hrest s

/-- A run in which the coarse check of an operation is made for a caller with this credential, whom
the verifier took for this one. -/
def ChecksFor (g : Gate Op K) (op : Op) (c : Caller) (s : Option Subject)
    (t : Trace (gateSignature K)) : Prop :=
  List.Sublist
    [⟨.verify c.token, .ok s⟩,
      ⟨.consult .operation ((g.evaluator.operations.asked op s ()).filterMap Checker.mark), ()⟩] t

theorem ChecksFor.verify_mem {c : Caller} {t : Trace (gateSignature K)}
    (h : ChecksFor g op c s t) : ⟨.verify c.token, .ok s⟩ ∈ t :=
  h.subset List.mem_cons_self

theorem ChecksFor.append {c : Caller} {t : Trace (gateSignature K)} (h : ChecksFor g op c s t)
    (u : Trace (gateSignature K)) : ChecksFor g op c s (t ++ u) :=
  h.trans (List.sublist_append_left t u)

theorem checksFor_operationRun (g : Gate Op K) (c : Caller) (op : Op) (s : Option Subject) :
    ChecksFor g op c s (authenticatedRun c s ++ operationRun g s op) := by
  show List.Sublist ([_] ++ [_]) (authenticatedRun c s ++ operationRun g s op)
  refine List.Sublist.append ?_ ?_
  · exact List.singleton_sublist.mpr (by simp [authenticatedRun])
  · exact List.singleton_sublist.mpr (by simp [operationRun, verdictRun])

theorem checksFor_admittedRun (g : Gate Op K) (c : Caller) (op : Op) (s : Option Subject) :
    ChecksFor g op c s (admittedRun g c op s) := by
  rw [admittedRun, ← List.append_assoc]
  exact (checksFor_operationRun g c op s).append _

/-- A pipeline that is over was cancelled, or had a bad credential, or has made the coarse check for
whom the verifier named. -/
theorem checksFor_of_ends {c : Caller} {β : Type}
    {rest : Option Subject →
      Attempt (gateSignature K) (Plan (gateSignature K) K.Entity (Except Failure β))}
    {t : Trace (gateSignature K)} {x : Except Failure β}
    (h : (request (g.admitting c op rest)).carryOut.Ends t x) :
    (⟨.poll, true⟩ ∈ t ∧ x = .error .cancelled) ∨
      (∃ a, ⟨.verify c.token, .error a⟩ ∈ t ∧ x = .error (.ofAuth a)) ∨
      ∃ s, ChecksFor g op c s t := by
  rcases ends_carryOut_request.mp h with ⟨e, he, rfl⟩ | ⟨plan, t₁, hy, t₂, rfl, _⟩
  · rcases fails_admitting.mp he with ⟨rfl | ⟨s, rfl⟩, rfl⟩ | ⟨a, rfl, rfl⟩ | ⟨s, _, rfl, _⟩ |
      ⟨s, _, u, rfl, _⟩
    · exact .inl ⟨by simp [cancelledRun], rfl⟩
    · exact .inl ⟨by simp [cancelledRun], rfl⟩
    · exact .inr (.inl ⟨a, by simp [rejectedRun], rfl⟩)
    · exact .inr (.inr ⟨s, checksFor_operationRun g c op s⟩)
    · exact .inr (.inr ⟨s, (checksFor_admittedRun g c op s).append u⟩)
  · obtain ⟨s, _, u, rfl, _⟩ := yields_admitting.mp hy
    exact .inr (.inr ⟨s, ((checksFor_admittedRun g c op s).append u).append t₂⟩)

end Admission

/-! ## Clearance for a change -/

section Clearance

variable [OperationSet Op] {g : Gate Op K} {s : Option Subject} {op : Op}

/-- The last steps before a change: the check of the target, and a look whether the request is still
wanted. -/
def clearing (g : Gate Op K) (s : Option Subject) (op : Op) (target : Target K) {α : Type} (a : α) :
    Attempt (gateSignature K) α := do
  g.authorizeObject s op target
  checkpoint
  pure a

/-- The run of the last steps before a change. -/
def clearedRun (g : Gate Op K) (s : Option Subject) (op : Op) (target : Target K) :
    Trace (gateSignature K) :=
  (objectRun g s op target ++ [⟨.log (passedEntry "object_authorized" op), ()⟩]) ++ [⟨.poll, false⟩]

theorem yields_clearing {α : Type} {target : Target K} {t : Trace (gateSignature K)} {a b : α} :
    Yields (g.clearing s op target a) t b ↔
      g.evaluator.objects.allows op s target ∧ t = clearedRun g s op target ∧ a = b := by
  rw [clearing, yields_bind]
  constructor
  · rintro ⟨_, t₁, h₁, t₂, rfl, h₂⟩
    obtain ⟨_, t₃, h₃, t₄, rfl, h₄⟩ := yields_bind.mp h₂
    obtain ⟨hallows, rfl⟩ := yields_authorizeObject.mp h₁
    obtain ⟨rfl, rfl⟩ := yields_pure.mp h₄
    rw [yields_checkpoint.mp h₃]
    exact ⟨hallows, rfl, rfl⟩
  · rintro ⟨hallows, rfl, rfl⟩
    refine ⟨(), _, yields_authorizeObject.mpr ⟨hallows, rfl⟩, _, rfl, yields_bind.mpr ?_⟩
    exact ⟨(), _, yields_checkpoint.mpr rfl, [], rfl, yields_pure.mpr ⟨rfl, rfl⟩⟩

/-- How the last steps before a change fail: cancelled at either of their looks, or by the check of
the target. -/
theorem fails_clearing {α : Type} {target : Target K} {t : Trace (gateSignature K)} {a : α}
    {e : Failure} : Fails (g.clearing s op target a) t e ↔
      ((t = cancelledRun ∨ g.evaluator.objects.allows op s target ∧
        t = (objectRun g s op target ++ [⟨.log (passedEntry "object_authorized" op), ()⟩]) ++
          cancelledRun) ∧ e = .cancelled) ∨
      (¬g.evaluator.objects.allows op s target ∧ t = objectRun g s op target ∧
        e = .permissionDenied) := by
  rw [clearing, fails_bind, fails_authorizeObject]
  constructor
  · rintro ((⟨rfl, rfl⟩ | h) | ⟨_, t₁, h₁, t₂, rfl, h₂⟩)
    · exact .inl ⟨.inl rfl, rfl⟩
    · exact .inr h
    · obtain ⟨hallows, rfl⟩ := yields_authorizeObject.mp h₁
      rcases fails_bind.mp h₂ with h₃ | ⟨_, t₃, h₃, t₄, rfl, h₄⟩
      · obtain ⟨rfl, rfl⟩ := fails_checkpoint.mp h₃
        exact .inl ⟨.inr ⟨hallows, rfl⟩, rfl⟩
      · exact absurd h₄ fails_pure
  · rintro (⟨rfl | ⟨hallows, rfl⟩, rfl⟩ | h)
    · exact .inl (.inl ⟨rfl, rfl⟩)
    · refine .inr ⟨(), _, yields_authorizeObject.mpr ⟨hallows, rfl⟩, _, rfl, fails_bind.mpr ?_⟩
      exact .inl (fails_checkpoint.mpr ⟨rfl, rfl⟩)
    · exact .inl (.inr h)

end Clearance

/-! ## What pipelines ask -/

/-- Questions among which are all those of the steps of a request, apart from its calls on the store
and from its task. -/
structure CoversSteps [OperationSet Op] (P : GateCall K → Prop) (g : Gate Op K) (op : Op) :
    Prop where
  poll : P .poll
  details : ∀ message fields, P (.log (Log.debug message fields))
  verify : ∀ token, P (.verify token)
  consult : ∀ level marks, P (.consult level marks)
  coarse : ∀ s, P (.log (g.evaluator.judgeOperation s op).2)
  fine : ∀ s target, P (.log (g.evaluator.judgeObject s op target).2)

namespace CoversSteps

section Steps

variable [OperationSet Op] {P : GateCall K → Prop} {g : Gate Op K} {op : Op}
  (h : CoversSteps P g op)
include h

theorem admitting {c : Caller} {α : Type} {rest : Option Subject → Attempt (gateSignature K) α}
    (hrest : ∀ s, AsksOnly P (rest s)) : AsksOnly P (g.admitting c op rest) :=
  asksOnly_admitting h.poll h.details (h.verify _) (h.consult _) h.coarse hrest

theorem authorizeObject {s : Option Subject} {target : Target K} :
    AsksOnly P (g.authorizeObject s op target) :=
  asksOnly_judged h.poll h.details (h.consult _ _) (h.fine s target) (h.details _ _)

theorem clearing {s : Option Subject} {target : Target K} {α : Type} {a : α} :
    AsksOnly P (g.clearing s op target a) :=
  h.authorizeObject.bind fun _ => (asksOnly_checkpoint h.poll h.details).bind fun _ => asksOnly_pure

end Steps

variable [PipelineSet Op] {P : GateCall K → Prop} {g : Gate Op K} {c : Caller}

theorem get (h : CoversSteps P g PipelineSet.detail) (hget : ∀ id, P (.store (.get id)))
    {input : Except Failure K.Id} : (g.get c input).AsksOnly P := by
  refine asksOnly_request (h.admitting fun s => asksOnly_given.bind fun id => ?_)
  refine (asksOnly_fetch h.poll h.details (hget id)).bind fun entity => ?_
  refine h.authorizeObject.bind fun _ => ?_
  exact (asksOnly_asking (h.details _ _)).bind fun _ => asksOnly_pure

theorem list (h : CoversSteps P g PipelineSet.list) (hlist : ∀ filter, P (.store (.list filter)))
    (hcount : ∀ filter, P (.store (.count filter))) {input : Except Failure K.Filter} :
    (g.list c input).AsksOnly P := by
  refine asksOnly_request (h.admitting fun s => asksOnly_given.bind fun filter => ?_)
  refine h.authorizeObject.bind fun _ => (asksOnly_checkpoint h.poll h.details).bind fun _ => ?_
  refine (asksOnly_storing (c := .list filter) (hlist filter)).bind fun items => ?_
  refine (asksOnly_storing (c := .count filter) (hcount filter)).bind fun total => ?_
  exact (asksOnly_asking (h.details _ _)).bind fun _ => asksOnly_pure

theorem authorize {op : Op} (h : CoversSteps P g op) : (g.authorize c op).AsksOnly P :=
  asksOnly_request (h.admitting fun _ => asksOnly_pure)

end CoversSteps

/-! ## Requests that nobody cancels -/

/-- A run in which the request is never found cancelled, with a verifier that gives these answers. -/
structure Attended (verify : Option String → Except AuthError (Option Subject))
    (t : Trace (gateSignature K)) : Prop where
  wanted : ∀ b, ⟨.poll, b⟩ ∈ t → b = false
  verified : ∀ c x, ⟨.verify c, x⟩ ∈ t → x = verify c

section Wanted

variable [OperationSet Op] {g : Gate Op K} {op : Op} {c : Caller}
  {verify : Option String → Except AuthError (Option Subject)}

/-- What the credential and the coarse check decide: who goes on, or what the request fails with. -/
def admission (g : Gate Op K) (verify : Option String → Except AuthError (Option Subject))
    (c : Caller) (op : Op) : Except Failure (Option Subject) :=
  match verify c.token with
  | .error a => .error (.ofAuth a)
  | .ok s => if g.evaluator.operations.allows op s () then .ok s else .error .permissionDenied

theorem admission_ok {s s' : Option Subject} (hv : verify c.token = .ok s) :
    g.admission verify c op = .ok s' ↔ s = s' ∧ g.evaluator.operations.allows op s () := by
  by_cases hop : g.evaluator.operations.allows op s () <;> simp [admission, hv, hop]

theorem admission_error {s : Option Subject} {f : Failure} (hv : verify c.token = .ok s) :
    g.admission verify c op = .error f ↔
      ¬g.evaluator.operations.allows op s () ∧ f = .permissionDenied := by
  by_cases hop : g.evaluator.operations.allows op s () <;>
    simp [admission, hv, hop, @eq_comm _ f]

theorem not_attended_cancelled {t : Trace (gateSignature K)} :
    ¬Attended verify (t ++ cancelledRun) := by
  intro h
  have hb : true = false := h.wanted true (by simp [cancelledRun])
  cases hb

theorem Attended.of_append_left {t u : Trace (gateSignature K)} (h : Attended verify (t ++ u)) :
    Attended verify t :=
  ⟨fun b hb => h.wanted b (List.mem_append_left _ hb),
    fun c x hx => h.verified c x (List.mem_append_left _ hx)⟩

theorem Attended.of_append_right {t u : Trace (gateSignature K)} (h : Attended verify (t ++ u)) :
    Attended verify u :=
  ⟨fun b hb => h.wanted b (List.mem_append_right _ hb),
    fun c x hx => h.verified c x (List.mem_append_right _ hx)⟩

/-- A caller who was found out is the one whom the verifier names. -/
theorem Attended.verify_eq {s : Option Subject} {u : Trace (gateSignature K)}
    (h : Attended verify (authenticatedRun c s ++ u)) : verify c.token = .ok s :=
  (h.verified c.token (.ok s) (by simp [authenticatedRun])).symm

/-- The front of a pipeline that nobody cancels goes as the admission says. -/
theorem ends_admitting {β : Type}
    {rest : Option Subject →
      Attempt (gateSignature K) (Plan (gateSignature K) K.Entity (Except Failure β))}
    {t : Trace (gateSignature K)} {x : Except Failure β} (ht : Attended verify t)
    (h : (request (g.admitting c op rest)).carryOut.Ends t x) :
    (∃ f, g.admission verify c op = .error f ∧ x = .error f) ∨
      ∃ s, g.admission verify c op = .ok s ∧
        ∃ u, t = admittedRun g c op s ++ u ∧ (request (rest s)).carryOut.Ends u x := by
  -- Every run that was not cancelled has asked the verifier, and its answer fixes the admission.
  rcases ends_carryOut_request.mp h with ⟨e, he, rfl⟩ | ⟨plan, t₁, hy, t₂, rfl, ht₂⟩
  · rcases fails_admitting.mp he with ⟨rfl | ⟨s, rfl⟩, _⟩ | ⟨a, rfl, rfl⟩ | ⟨s, hdenied, rfl, rfl⟩ |
      ⟨s, hallows, u, rfl, hu⟩
    · exact absurd ht (not_attended_cancelled (t := []))
    · exact absurd ht not_attended_cancelled
    · have hv : verify c.token = .error a :=
        (ht.verified c.token _ (by simp [rejectedRun])).symm
      exact .inl ⟨_, by simp [admission, hv], rfl⟩
    · exact .inl ⟨_, by simp [admission, ht.verify_eq, hdenied], rfl⟩
    · have hv : verify c.token = .ok s := ht.of_append_left.verify_eq
      refine .inr ⟨s, by simp [admission, hv, hallows], u, rfl, ?_⟩
      exact ends_carryOut_request.mpr (.inl ⟨e, hu, rfl⟩)
  · obtain ⟨s, hallows, u, rfl, hu⟩ := yields_admitting.mp hy
    rw [List.append_assoc] at ht
    have hv : verify c.token = .ok s := ht.of_append_left.verify_eq
    refine .inr ⟨s, by simp [admission, hv, hallows], u ++ t₂, List.append_assoc .., ?_⟩
    exact ends_carryOut_request.mpr (.inr ⟨plan, u, hu, t₂, rfl, ht₂⟩)

end Wanted

/-! ## Surroundings -/

/-- Surroundings in which nothing is cancelled and every call succeeds, with a given verifier and a
store that knows one entity. -/
def obliging (entity : K.Entity) (verify : Option String → Except AuthError (Option Subject)) :
    (q : GateCall K) → q.Answer
  | .poll => false
  | .verify c => verify c
  | .consult _ _ => ()
  | .store (.get _) => .ok entity
  | .store (.create _) => .ok entity
  | .store (.update _) => .ok entity
  | .store (.delete _) => .ok ()
  | .store (.list _) => .ok [entity]
  | .store (.count _) => .ok 1
  | .send _ => .ok ()
  | .log _ => ()

theorem attended_obliging {α : Type} (entity : K.Entity)
    (verify : Option String → Except AuthError (Option Subject))
    (p : Program (gateSignature K) α) : Attended verify (p.play (obliging entity verify)).1 where
  wanted _ hb := Program.answer_of_mem_play (obliging entity verify) p _ hb
  verified _ _ hx := Program.answer_of_mem_play (obliging entity verify) p _ hx

end Gatehouse.Gate
