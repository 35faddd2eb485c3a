import Gatehouse.Proofs.Gate.Denial

/-!
# Changes are cleared

The store is changed only for callers who have passed every check. Whatever the verifier, the
checkers, the store and the sinks answer, and wherever a run stops, there is at most one call that
may change the store, and before it stand, in this order, the answer that says who the caller is,
the coarse check of that caller, the look at the entity in question, and the check of that caller on
that entity.

The vocabulary of the statement is `changes`, the calls of a run that may change the store, and
`ClearedChange`, a run with one such call and what came before it.
-/

namespace Gatehouse

/-- Whether a call may change the store. -/
def GateCall.mutates {K : Resource} : GateCall K → Bool
  | store c => c.mutates
  | poll | verify _ | consult _ _ | send _ | log _ => false

namespace Gate

open Attempt

variable {Op : Type} {K : Resource}

/-- The calls of a run that may change the store. -/
def changes (t : Trace (gateSignature K)) : Trace (gateSignature K) :=
  t.filter fun act => act.question.mutates

theorem changes_append (t u : Trace (gateSignature K)) :
    changes (t ++ u) = changes t ++ changes u :=
  List.filter_append ..

section Vocabulary

variable [OperationSet Op]

/-- A caller has been found out and has passed both checks of an operation, in a run that saw
something in between. -/
structure Cleared (g : Gate Op K) (c : Caller) (op : Op) (s : Option Subject) (target : Target K)
    (seen before : Trace (gateSignature K)) : Prop where
  coarse : g.evaluator.operations.allows op s ()
  fine : g.evaluator.objects.allows op s target
  /-- The verifier speaks first, then the coarse check is made, then the check of the target. -/
  order : List.Sublist
    ([⟨.verify c.token, .ok s⟩,
      ⟨.consult .operation ((g.evaluator.operations.asked op s ()).filterMap Checker.mark), ()⟩] ++
      seen ++
      [⟨.consult .object ((g.evaluator.objects.asked op s target).filterMap Checker.mark), ()⟩])
    before

/-- A run whose only change is the given call, made for a caller who was cleared before. -/
def ClearedChange (g : Gate Op K) (c : Caller) (op : Op) (target : Target K)
    (seen : Trace (gateSignature K)) (call : StoreCall K) (t : Trace (gateSignature K)) : Prop :=
  ∃ s before x after, t = before ++ ⟨.store call, x⟩ :: after ∧
    changes before = [] ∧ changes after = [] ∧ Cleared g c op s target seen before

end Vocabulary

/-! ## Parts of runs without a change -/

/-- Questions that leave the store as it is. -/
def Quiet (q : GateCall K) : Prop := q.mutates = false

theorem quiet_poll : Quiet (K := K) .poll := rfl

theorem quiet_log (message : String) (fields : List (String × String)) :
    Quiet (K := K) (.log (Log.debug message fields)) := rfl

theorem changes_eq_nil {α : Type} {p : Program (gateSignature K) α} (hp : p.AsksOnly Quiet)
    {t : Trace (gateSignature K)} (h : p.Begins t) : changes t = [] := by
  rw [changes, List.filter_eq_nil_iff]
  intro act hact
  have hq : Quiet act.question := hp.of_begins h act hact
  simpa [Quiet] using hq

theorem quiet_fetch (id : K.Id) : AsksOnly Quiet (fetch id) :=
  asksOnly_fetch quiet_poll quiet_log rfl

theorem quiet_say (entry : Log.Entry) : AsksOnly Quiet (say (K := K) entry) :=
  asksOnly_asking rfl

/-- What follows a change in a task does not change the store again. -/
theorem quiet_aftermath {change : Change} {id : K.Id} {entity result : K.Entity}
    (entry : Log.Entry) :
    AsksOnly Quiet (do say entry; announce change id entity; pure result) :=
  (quiet_say entry).bind fun _ =>
    (asksOnly_announce quiet_log rfl fun _ => rfl).bind fun _ => asksOnly_pure

theorem quiet_steps [OperationSet Op] {g : Gate Op K} {op : Op} : CoversSteps Quiet g op :=
  ⟨quiet_poll, quiet_log, fun _ => rfl, fun _ _ => rfl, fun _ => rfl, fun _ _ => rfl⟩

/-- A task that begins with a call on the store makes no change but this. -/
theorem change_of_begins {c : StoreCall K} {α β : Type} {hc : c.Answer = Except Failure α}
    {f : α → Attempt (gateSignature K) β} (hf : ∀ a, AsksOnly Quiet (f a))
    {t : Trace (gateSignature K)} (h : Program.Begins (storing c hc >>= f).run t)
    (hne : changes t ≠ []) : ∃ x after, t = ⟨.store c, x⟩ :: after ∧ changes after = [] := by
  rw [run_bind, Program.begins_bind] at h
  -- The run stops before the call or right after it, or goes on with what the call returned.
  rcases h with (rfl | ⟨x, u, rfl, rfl⟩) | ⟨y, t₁, ⟨x, u, rfl, rfl, hx⟩, t₂, rfl, ht₂⟩
  · exact absurd rfl hne
  · exact ⟨x, [], rfl, rfl⟩
  · refine ⟨x, t₂, rfl, ?_⟩
    cases y with
    | ok a => exact changes_eq_nil (hf a) ht₂
    | error e =>
      cases ht₂
      rfl

/-- A request without a change while it is planned changes the store by its plan, if at all. -/
theorem plan_of_change {β : Type}
    {front : Attempt (gateSignature K) (Plan (gateSignature K) K.Entity (Except Failure β))}
    (hq : (request front).AsksOnly Quiet) {t : Trace (gateSignature K)}
    (h : (request front).carryOut.Begins t) (hne : changes t ≠ []) :
    ∃ plan t₁, Yields front t₁ plan ∧ changes t₁ = [] ∧
      ∃ t₂, t = t₁ ++ t₂ ∧ plan.carryOut.Begins t₂ ∧ changes t₂ ≠ [] := by
  -- Only quiet questions are asked before there is a plan, so the change belongs to the plan.
  rcases Request.begins_carryOut.mp h with hfront | ⟨plan, t₁, hplan, t₂, rfl, ht₂⟩
  · exact absurd (changes_eq_nil hq hfront) hne
  · have h₁ : changes t₁ = [] := changes_eq_nil hq hplan.begins
    rw [changes_append, h₁, List.nil_append] at hne
    rcases ends_request.mp hplan with hy | ⟨e, _, rfl⟩
    · exact ⟨plan, t₁, hy, h₁, t₂, rfl, ht₂, hne⟩
    · cases ht₂
      exact absurd rfl hne

/-- A request whose plan is an answer never changes the store. -/
theorem changes_of_answers {β : Type}
    {front : Attempt (gateSignature K) (Plan (gateSignature K) K.Entity (Except Failure β))}
    (hq : (request front).AsksOnly Quiet)
    (ha : ∀ {t plan}, Yields front t plan → ∃ b, plan = .answer b)
    {t : Trace (gateSignature K)} (h : (request front).carryOut.Begins t) : changes t = [] := by
  by_contra hne
  obtain ⟨plan, t₁, hy, _, t₂, _, ht₂, hne₂⟩ := plan_of_change hq h hne
  obtain ⟨b, rfl⟩ := ha hy
  cases ht₂
  exact hne₂ rfl

/-! ## The checks before a change -/

section Pipelines

variable [PipelineSet Op] (g : Gate Op K) (c : Caller)

/-- The runs of the steps, one after the other, clear the caller. -/
theorem cleared_of_runs {op : Op} {s : Option Subject} {target : Target K}
    {seen middle : Trace (gateSignature K)} (hop : g.evaluator.operations.allows op s ())
    (hobj : g.evaluator.objects.allows op s target) (hseen : List.Sublist seen middle) :
    Cleared g c op s target seen (admittedRun g c op s ++ (middle ++ clearedRun g s op target)) := by
  refine ⟨hop, hobj, ?_⟩
  rw [List.append_assoc]
  refine List.Sublist.append ?_ (hseen.append ?_)
  · exact checksFor_admittedRun g c op s
  · exact List.singleton_sublist.mpr (by simp [clearedRun, objectRun, verdictRun])

theorem get_sublist_fetchedRun {id : K.Id} {entity : K.Entity} :
    List.Sublist [⟨.store (.get id), .ok entity⟩] (fetchedRun id entity) :=
  List.singleton_sublist.mpr (by simp [fetchedRun])

theorem cleared_create {input : Except Failure K.Draft} {t : Trace (gateSignature K)}
    (h : (g.create c input).carryOut.Begins t) (hne : changes t ≠ []) :
    ∃ draft, input = .ok draft ∧
      ClearedChange g c PipelineSet.create (.draft draft) [] (.create draft) t := by
  obtain ⟨plan, t₁, hy, h₁, t₂, rfl, ht₂, hne₂⟩ := plan_of_change
    (asksOnly_request (quiet_steps.admitting fun s => asksOnly_given.bind fun draft =>
      quiet_steps.clearing)) h hne
  obtain ⟨s, hop, u, rfl, hu⟩ := yields_admitting.mp hy
  obtain ⟨draft, u₁, hdraft, u₂, rfl, hu₂⟩ := yields_bind.mp hu
  obtain ⟨rfl, hin⟩ := yields_given.mp hdraft
  obtain ⟨hobj, rfl, rfl⟩ := yields_clearing.mp hu₂
  obtain ⟨x, after, rfl, hafter⟩ :=
    change_of_begins (fun entity => quiet_aftermath _) (Plan.begins_task.mp ht₂) hne₂
  exact ⟨draft, hin, s, _, x, after, rfl, h₁, hafter, cleared_of_runs g c hop hobj .slnil⟩

theorem cleared_update {input : Except Failure K.Patch} {t : Trace (gateSignature K)}
    (h : (g.update c input).carryOut.Begins t) (hne : changes t ≠ []) :
    ∃ patch entity, input = .ok patch ∧
      ClearedChange g c PipelineSet.update (.entity entity)
        [⟨.store (.get (K.patched patch)), .ok entity⟩] (.update patch) t := by
  obtain ⟨plan, t₁, hy, h₁, t₂, rfl, ht₂, hne₂⟩ := plan_of_change
    (asksOnly_request (quiet_steps.admitting fun s => asksOnly_given.bind fun patch =>
      (quiet_fetch _).bind fun entity => quiet_steps.clearing)) h hne
  obtain ⟨s, hop, u, rfl, hu⟩ := yields_admitting.mp hy
  obtain ⟨patch, u₁, hpatch, u₂, rfl, hu₂⟩ := yields_bind.mp hu
  obtain ⟨rfl, hin⟩ := yields_given.mp hpatch
  obtain ⟨entity, u₃, hentity, u₄, rfl, hu₄⟩ := yields_bind.mp hu₂
  obtain rfl := yields_fetch.mp hentity
  obtain ⟨hobj, rfl, rfl⟩ := yields_clearing.mp hu₄
  obtain ⟨x, after, rfl, hafter⟩ :=
    change_of_begins (fun entity => quiet_aftermath _) (Plan.begins_task.mp ht₂) hne₂
  exact ⟨patch, entity, hin, s, _, x, after, rfl, h₁, hafter,
    cleared_of_runs g c hop hobj get_sublist_fetchedRun⟩

theorem cleared_delete {input : Except Failure K.Id} {t : Trace (gateSignature K)}
    (h : (g.delete c input).carryOut.Begins t) (hne : changes t ≠ []) :
    ∃ id entity, input = .ok id ∧
      ClearedChange g c PipelineSet.delete (.entity entity) [⟨.store (.get id), .ok entity⟩]
        (.delete id) t := by
  obtain ⟨plan, t₁, hy, h₁, t₂, rfl, ht₂, hne₂⟩ := plan_of_change
    (asksOnly_request (quiet_steps.admitting fun s => asksOnly_given.bind fun id =>
      (quiet_fetch _).bind fun entity => quiet_steps.clearing)) h hne
  obtain ⟨s, hop, u, rfl, hu⟩ := yields_admitting.mp hy
  obtain ⟨id, u₁, hid, u₂, rfl, hu₂⟩ := yields_bind.mp hu
  obtain ⟨rfl, hin⟩ := yields_given.mp hid
  obtain ⟨entity, u₃, hentity, u₄, rfl, hu₄⟩ := yields_bind.mp hu₂
  obtain rfl := yields_fetch.mp hentity
  obtain ⟨hobj, rfl, rfl⟩ := yields_clearing.mp hu₄
  obtain ⟨x, after, rfl, hafter⟩ :=
    change_of_begins (fun _ => quiet_aftermath _) (Plan.begins_task.mp ht₂) hne₂
  exact ⟨id, entity, hin, s, _, x, after, rfl, h₁, hafter,
    cleared_of_runs g c hop hobj get_sublist_fetchedRun⟩

/-! ## Requests that never change the store -/

theorem answer_of_get {input : Except Failure K.Id} {t : Trace (gateSignature K)}
    {plan : Plan (gateSignature K) K.Entity (Except Failure K.Entity)}
    (h : Program.Ends (g.get c input) t plan) : ∃ b, plan = .answer b := by
  rcases ends_request.mp h with hy | ⟨e, _, rfl⟩
  · obtain ⟨s, _, u, rfl, hu⟩ := yields_admitting.mp hy
    obtain ⟨id, _, _, u₂, rfl, hu₂⟩ := yields_bind.mp hu
    obtain ⟨entity, _, _, u₃, rfl, hu₃⟩ := yields_bind.mp hu₂
    obtain ⟨_, _, _, u₄, rfl, hu₄⟩ := yields_bind.mp hu₃
    obtain ⟨_, _, _, u₅, rfl, hu₅⟩ := yields_bind.mp hu₄
    exact ⟨_, (yields_pure.mp hu₅).2.symm⟩
  · exact ⟨_, rfl⟩

theorem answer_of_list {input : Except Failure K.Filter} {t : Trace (gateSignature K)}
    {plan : Plan (gateSignature K) K.Entity (Except Failure (Listing K.Entity))}
    (h : Program.Ends (g.list c input) t plan) : ∃ b, plan = .answer b := by
  rcases ends_request.mp h with hy | ⟨e, _, rfl⟩
  · obtain ⟨s, _, u, rfl, hu⟩ := yields_admitting.mp hy
    obtain ⟨filter, _, _, u₂, rfl, hu₂⟩ := yields_bind.mp hu
    obtain ⟨_, _, _, u₃, rfl, hu₃⟩ := yields_bind.mp hu₂
    obtain ⟨l, rfl⟩ := yields_reading hu₃
    exact ⟨.ok l, rfl⟩
  · exact ⟨_, rfl⟩

theorem answer_of_authorize {op : Op} {t : Trace (gateSignature K)}
    {plan : Plan (gateSignature K) K.Entity (Except Failure (Option Subject))}
    (h : Program.Ends (g.authorize c op) t plan) : ∃ b, plan = .answer b := by
  rcases ends_request.mp h with hy | ⟨e, _, rfl⟩
  · obtain ⟨s, _, u, rfl, hu⟩ := yields_admitting.mp hy
    exact ⟨_, (yields_pure.mp hu).2.symm⟩
  · exact ⟨_, rfl⟩

theorem changes_get {input : Except Failure K.Id} {t : Trace (gateSignature K)}
    (h : (g.get c input).carryOut.Begins t) : changes t = [] :=
  changes_of_answers (quiet_steps.get fun _ => rfl)
    (fun hy => answer_of_get g c (ends_request.mpr (.inl hy))) h

theorem changes_list {input : Except Failure K.Filter} {t : Trace (gateSignature K)}
    (h : (g.list c input).carryOut.Begins t) : changes t = [] :=
  changes_of_answers (quiet_steps.list (fun _ => rfl) fun _ => rfl)
    (fun hy => answer_of_list g c (ends_request.mpr (.inl hy))) h

theorem changes_authorize {op : Op} {t : Trace (gateSignature K)}
    (h : (g.authorize c op).carryOut.Begins t) : changes t = [] :=
  changes_of_answers quiet_steps.authorize
    (fun hy => answer_of_authorize g c (ends_request.mpr (.inl hy))) h

/-! ## The headline -/

/-- **Nothing is changed that was not cleared.** A run of `create`, `update` or `delete` that changes
the store does so by one call, its own one, for a caller who was found out and passed the coarse
check of the operation and the check of the very draft, or of the entity just read under the very
identifier. Runs of the other requests change nothing. Runs may have been cut off anywhere. -/
theorem changes_cleared :
    (∀ (input : Except Failure K.Draft) (t : Trace (gateSignature K)),
      (g.create c input).carryOut.Begins t → changes t ≠ [] → ∃ draft, input = .ok draft ∧
        ClearedChange g c PipelineSet.create (.draft draft) [] (.create draft) t) ∧
    (∀ (input : Except Failure K.Patch) (t : Trace (gateSignature K)),
      (g.update c input).carryOut.Begins t → changes t ≠ [] → ∃ patch entity, input = .ok patch ∧
        ClearedChange g c PipelineSet.update (.entity entity)
          [⟨.store (.get (K.patched patch)), .ok entity⟩] (.update patch) t) ∧
    (∀ (input : Except Failure K.Id) (t : Trace (gateSignature K)),
      (g.delete c input).carryOut.Begins t → changes t ≠ [] → ∃ id entity, input = .ok id ∧
        ClearedChange g c PipelineSet.delete (.entity entity) [⟨.store (.get id), .ok entity⟩]
          (.delete id) t) ∧
    (∀ input t, (g.get c input).carryOut.Begins t → changes t = []) ∧
    (∀ input t, (g.list c input).carryOut.Begins t → changes t = []) ∧
    ∀ op t, (g.authorize c op).carryOut.Begins t → changes t = [] :=
  ⟨fun _ _ => cleared_create g c, fun _ _ => cleared_update g c, fun _ _ => cleared_delete g c,
    fun _ _ => changes_get g c, fun _ _ => changes_list g c, fun _ _ => changes_authorize g c⟩

end Pipelines

/-- A gate that lets authenticated callers do anything with companies. -/
def forUsers : Gate Operation Company.resource where
  evaluator := ⟨⟨fun _ => some [Builtin.user.checker _]⟩, ⟨fun _ => some [Builtin.user.checker _]⟩⟩
  complete := rfl

/-- The run of a request in which a user gets what was asked for. -/
def smoothRun {β : Type} (r : Request (gateSignature Company.resource) Company β) :
    Trace (gateSignature Company.resource) :=
  (r.carryOut.play (obliging (default : Company) fun _ => .ok (some (Subject.ofId "u1")))).1

theorem begins_smoothRun {β : Type} (r : Request (gateSignature Company.resource) Company β) :
    r.carryOut.Begins (smoothRun r) :=
  (Program.ends_play ..).begins

/-- A draft like any other. -/
def plainDraft : Company.Draft := ⟨"Name", "", 1, true, .corporation⟩

/-- In a run that goes well for a user, each of the three requests does change the store. -/
theorem changes_cleared_for_user :
    ClearedChange forUsers ⟨some "token"⟩ .create (.draft plainDraft) [] (.create plainDraft)
      (smoothRun (forUsers.create ⟨some "token"⟩ (.ok plainDraft))) ∧
    (∃ e, ClearedChange forUsers ⟨some "token"⟩ .update (.entity e)
      [⟨.store (.get default), .ok e⟩] (.update (Company.Patch.empty default))
      (smoothRun (forUsers.update ⟨some "token"⟩ (.ok (Company.Patch.empty default))))) ∧
    ∃ e, ClearedChange forUsers ⟨some "token"⟩ .delete (.entity e)
      [⟨.store (.get default), .ok e⟩] (.delete default)
      (smoothRun (forUsers.delete ⟨some "token"⟩ (.ok default))) := by
  obtain ⟨hcreate, hupdate, hdelete, _⟩ := changes_cleared forUsers ⟨some "token"⟩
  refine ⟨?_, ?_, ?_⟩
  · obtain ⟨d, hd, h⟩ := hcreate (.ok plainDraft) _ (begins_smoothRun _) (List.cons_ne_nil _ _)
    cases hd
    exact h
  · obtain ⟨p, e, hp, h⟩ := hupdate (.ok (Company.Patch.empty default)) _ (begins_smoothRun _)
      (List.cons_ne_nil _ _)
    cases hp
    exact ⟨e, h⟩
  · obtain ⟨id, e, hid, h⟩ := hdelete (.ok default) _ (begins_smoothRun _) (List.cons_ne_nil _ _)
    cases hid
    exact ⟨e, h⟩

end Gate

end Gatehouse
