import Gatehouse.Proofs.Gate.Discretion
import Gatehouse.Proofs.Surroundings

/-!
# Two callers side by side

A pipeline looks at its caller in two places, the coarse check and the check of the target. Whatever
else it learns from the verifier goes to the log. So if the tables favour a caller over another one,
the request of the favoured one does what that of the other does, unless the other is denied.

The two requests run in surroundings that answer by a function and may keep any state: a store that
others write to, a signal that comes at some moment, sinks that fail. All that is asked of them is
to be `Impartial`. `Follows` compares two programs in such surroundings; it passes through
sequencing, so that a pipeline is compared step by step.
-/

namespace Gatehouse

namespace Gate

open Attempt

variable {Op : Type} {K : Resource} {σ α α' β β' : Type}

/-- Surroundings that find out who a caller is, and in which nothing else depends on it, nor on what
is written to the log. -/
structure Impartial (verify : Option String → Except AuthError (Option Subject))
    (answer : σ → (q : GateCall K) → q.Answer × σ) : Prop where
  verified : ∀ state token, (answer state (.verify token)).1 = verify token
  unmoved : ∀ state token token',
    (answer state (.verify token)).2 = (answer state (.verify token')).2
  unread : ∀ state entry entry', (answer state (.log entry)).2 = (answer state (.log entry')).2

/-- How two attempts end that fail alike, or with results that are related. -/
inductive Alike (R : α → α' → Prop) : Except Failure α → Except Failure α' → Prop where
  | ok {a : α} {a' : α'} (h : R a a') : Alike R (.ok a) (.ok a')
  | error (e : Failure) : Alike R (.error e) (.error e)

theorem Alike.ne_error {R : α → α' → Prop} {x : Except Failure α}
    {x' : Except Failure α'} {f : Failure} (h : Alike R x x') (hx : x ≠ .error f) :
    x' ≠ .error f := by
  cases h with
  | ok h => simp
  | error e =>
    intro he
    cases he
    exact hx rfl

theorem Alike.map_eq {R : α → α' → Prop} {x : Except Failure α}
    {x' : Except Failure α'} {f : α → β} {f' : α' → β} (h : Alike R x x')
    (hf : ∀ a a', R a a' → f' a' = f a) : x'.map f' = x.map f := by
  cases h with
  | ok h => exact congrArg Except.ok (hf _ _ h)
  | error e => rfl

/-- The second program follows the first: from each state the first one is denied, or the second one
ends like it and in the same state. -/
def Follows (answer : σ → (q : GateCall K) → q.Answer × σ) (R : α → α' → Prop)
    (p : Program (gateSignature K) (Except Failure α))
    (p' : Program (gateSignature K) (Except Failure α')) : Prop :=
  ∀ state, (p.walk answer state).2.1 = .error .permissionDenied ∨
    Alike R (p.walk answer state).2.1 (p'.walk answer state).2.1 ∧
      (p.walk answer state).2.2 = (p'.walk answer state).2.2

/-! ## Sequencing -/

section Sequencing

variable {answer : σ → (q : GateCall K) → q.Answer × σ} {R : α → α' → Prop} {R' : β → β' → Prop}

theorem Follows.refl (p : Program (gateSignature K) (Except Failure α)) :
    Follows answer Eq p p := by
  intro state
  refine .inr ⟨?_, rfl⟩
  cases (p.walk answer state).2.1 with
  | ok a => exact .ok rfl
  | error e => exact .error e

/-- What comes after two programs need only follow from related results on. -/
theorem Follows.andThen {p : Program (gateSignature K) (Except Failure α)}
    {p' : Program (gateSignature K) (Except Failure α')}
    {k : Except Failure α → Program (gateSignature K) (Except Failure β)}
    {k' : Except Failure α' → Program (gateSignature K) (Except Failure β')}
    (hp : Follows answer R p p')
    (hk : ∀ a a', R a a' → Follows answer R' (k (.ok a)) (k' (.ok a')))
    (he : ∀ e, k (.error e) = .done (.error e)) (he' : ∀ e, k' (.error e) = .done (.error e)) :
    Follows answer R' (p.bind k) (p'.bind k') := by
  intro state
  rw [Program.walk_bind, Program.walk_bind]
  rcases hp state with hdenied | ⟨halike, hstate⟩
  · left
    rw [hdenied, he]
    rfl
  rw [← hstate]
  generalize (p.walk answer state).2.1 = x at halike
  generalize (p'.walk answer state).2.1 = x' at halike
  cases halike with
  | ok h => exact hk _ _ h _
  | error e =>
    rw [he, he']
    exact .inr ⟨.error e, rfl⟩

theorem Follows.bind {x : Attempt (gateSignature K) α} {x' : Attempt (gateSignature K) α'}
    {f : α → Attempt (gateSignature K) β} {f' : α' → Attempt (gateSignature K) β'}
    (hx : Follows answer R x.run x'.run)
    (hf : ∀ a a', R a a' → Follows answer R' (f a).run (f' a').run) :
    Follows answer R' (x >>= f).run (x' >>= f').run := by
  rw [run_bind, run_bind]
  exact hx.andThen hf (fun _ => rfl) fun _ => rfl

/-- A request goes on after its first steps as another one does after its own. -/
theorem Follows.request {x : Attempt (gateSignature K) α} {x' : Attempt (gateSignature K) α'}
    {f : α → Attempt (gateSignature K) (Plan (gateSignature K) K.Entity (Except Failure β))}
    {f' : α' → Attempt (gateSignature K) (Plan (gateSignature K) K.Entity (Except Failure β'))}
    (hx : Follows answer R x.run x'.run)
    (hf : ∀ a a', R a a' →
      Follows answer R' (Gate.request (f a)).carryOut (Gate.request (f' a')).carryOut) :
    Follows answer R' (Gate.request (x >>= f)).carryOut (Gate.request (x' >>= f')).carryOut := by
  rw [carryOut_request_bind, carryOut_request_bind]
  exact hx.andThen hf (fun _ => rfl) fun _ => rfl

/-- Two requests that begin with the same steps. -/
theorem Follows.requestAfter (x : Attempt (gateSignature K) α)
    {f : α → Attempt (gateSignature K) (Plan (gateSignature K) K.Entity (Except Failure β))}
    {f' : α → Attempt (gateSignature K) (Plan (gateSignature K) K.Entity (Except Failure β'))}
    (hf : ∀ a, Follows answer R' (Gate.request (f a)).carryOut (Gate.request (f' a)).carryOut) :
    Follows answer R' (Gate.request (x >>= f)).carryOut (Gate.request (x >>= f')).carryOut := by
  refine (Follows.refl x.run).request fun a a' h => ?_
  subst h
  exact hf a

/-- What the callers get may be changed after the run. -/
theorem Follows.map {r : Request (gateSignature K) K.Entity (Except Failure α)}
    {r' : Request (gateSignature K) K.Entity (Except Failure α')} {f : α → β} {f' : α' → β'}
    (h : Follows answer R r.carryOut r'.carryOut) (hf : ∀ a a', R a a' → R' (f a) (f' a')) :
    Follows answer R' (r.map fun x => x.map f).carryOut (r'.map fun x => x.map f').carryOut := by
  rw [Request.carryOut_map, Request.carryOut_map]
  refine h.andThen (fun a a' ha state => ?_) (fun _ => rfl) fun _ => rfl
  exact .inr ⟨.ok (hf a a' ha), rfl⟩

end Sequencing

/-! ## Steps -/

section Steps

variable {answer : σ → (q : GateCall K) → q.Answer × σ}
  {verify : Option String → Except AuthError (Option Subject)} {c c' : Caller}
  {s s' : Option Subject}

theorem follows_say (hsurr : Impartial verify answer) (entry entry' : Log.Entry) :
    Follows answer Eq (say (K := K) entry).run (say (K := K) entry').run :=
  fun state => .inr ⟨.ok rfl, hsurr.unread state entry entry'⟩

/-- Two callers who are both found out. -/
theorem follows_authenticate (hsurr : Impartial verify answer) (hs : verify c.token = .ok s)
    (hs' : verify c'.token = .ok s') :
    Follows answer (fun a a' => a = s ∧ a' = s') (authenticate (K := K) c).run
      (authenticate (K := K) c').run := by
  refine (Follows.refl checkpoint.run).bind fun _ _ _ => ?_
  have hverify : Follows answer (fun a a' => a = .ok s ∧ a' = .ok s')
      (asking (K := K) (.verify c.token)).run (asking (K := K) (.verify c'.token)).run := by
    refine fun state => .inr ⟨.ok ⟨?_, ?_⟩, hsurr.unmoved state _ _⟩
    · rw [← hs]
      exact hsurr.verified state _
    · rw [← hs']
      exact hsurr.verified state _
  refine hverify.bind fun a a' h => ?_
  obtain ⟨rfl, rfl⟩ := h
  exact (follows_say hsurr _ _).bind fun _ _ _ state => .inr ⟨.ok ⟨rfl, rfl⟩, rfl⟩

/-- A check of either level that the second caller passes if the first one does. -/
theorem follows_judged (hsurr : Impartial verify answer) {l : PolicyLevel} {marks : List String}
    {b b' : Bool} {verdict verdict' : Except PolicyError Unit × Log.Entry}
    (hv : verdict.1 = if b then .ok () else .error .permissionDenied)
    (hv' : verdict'.1 = if b' then .ok () else .error .permissionDenied) (hb : b → b')
    (passed : Log.Entry) :
    Follows answer Eq (judged (K := K) l marks verdict passed).run
      (judged (K := K) l marks verdict' passed).run := by
  refine (Follows.refl checkpoint.run).bind fun _ _ _ => ?_
  refine (Follows.refl _).bind fun _ _ _ => ?_
  refine (follows_say hsurr _ _).bind fun _ _ _ => ?_
  have hgiven : Follows answer Eq
      (given (K := K) (verdict.1.mapError .ofPolicy)).run
      (given (K := K) (verdict'.1.mapError .ofPolicy)).run := by
    intro state
    cases b with
    | false =>
      left
      rw [hv]
      rfl
    | true =>
      right
      rw [hv, hv', hb rfl]
      exact ⟨.ok rfl, rfl⟩
  exact hgiven.bind fun _ _ _ => Follows.refl _

end Steps

/-! ## Pipelines -/

section Pipelines

/-- The tables of a gate favour the second caller: the chains let the second pass wherever they let
the first one pass, and the same marks are reported of both. -/
structure Favours [OperationSet Op] (g : Gate Op K) (s s' : Option Subject) : Prop where
  coarse : ∀ op, g.evaluator.operations.allows op s () → g.evaluator.operations.allows op s' ()
  fine : ∀ op target, g.evaluator.objects.allows op s target →
    g.evaluator.objects.allows op s' target
  coarseMarks : ∀ op, (g.evaluator.operations.asked op s ()).filterMap Checker.mark =
    (g.evaluator.operations.asked op s' ()).filterMap Checker.mark
  fineMarks : ∀ op target, (g.evaluator.objects.asked op s target).filterMap Checker.mark =
    (g.evaluator.objects.asked op s' target).filterMap Checker.mark

variable {answer : σ → (q : GateCall K) → q.Answer × σ}
  {verify : Option String → Except AuthError (Option Subject)} {c c' : Caller}
  {s s' : Option Subject}

/-- The check of a target, and what comes after it. -/
theorem follows_authorizeObject [OperationSet Op] {g : Gate Op K} (hsurr : Impartial verify answer)
    (hg : g.Favours s s') (op : Op) (target : Target K)
    (rest : Unit → Attempt (gateSignature K) (Plan (gateSignature K) K.Entity (Except Failure β))) :
    Follows answer Eq (request (g.authorizeObject s op target >>= rest)).carryOut
      (request (g.authorizeObject s' op target >>= rest)).carryOut := by
  rw [authorizeObject_eq, authorizeObject_eq, hg.fineMarks op target]
  refine (follows_judged hsurr (g.evaluator.judgeObject_fst s op target)
    (g.evaluator.judgeObject_fst s' op target) (hg.fine op target) _).request fun _ _ _ => ?_
  exact Follows.refl _

/-- The authentication and the coarse check, and what comes after them. -/
theorem follows_admitting [OperationSet Op] {g : Gate Op K} (hsurr : Impartial verify answer)
    (hs : verify c.token = .ok s) (hs' : verify c'.token = .ok s') (hg : g.Favours s s') (op : Op)
    {R : β → β → Prop} {rest : Option Subject →
      Attempt (gateSignature K) (Plan (gateSignature K) K.Entity (Except Failure β))}
    (hrest : Follows answer R (request (rest s)).carryOut (request (rest s')).carryOut) :
    Follows answer R (request (g.admitting c op rest)).carryOut
      (request (g.admitting c' op rest)).carryOut := by
  refine (follows_authenticate hsurr hs hs').request fun a a' h => ?_
  obtain ⟨rfl, rfl⟩ := h
  rw [authorizeOperation_eq, authorizeOperation_eq, hg.coarseMarks op]
  refine (follows_judged hsurr (g.evaluator.judgeOperation_fst a op)
    (g.evaluator.judgeOperation_fst a' op) (hg.coarse op) _).request fun _ _ _ => ?_
  exact hrest

variable [PipelineSet Op] {g : Gate Op K}

section Favoured

variable (hsurr : Impartial verify answer) (hs : verify c.token = .ok s)
  (hs' : verify c'.token = .ok s') (hg : g.Favours s s')
include hsurr hs hs' hg

theorem follows_create (input : Except Failure K.Draft) :
    Follows answer Eq (g.create c input).carryOut (g.create c' input).carryOut := by
  refine follows_admitting hsurr hs hs' hg PipelineSet.create ?_
  refine Follows.requestAfter (given input) fun draft => ?_
  exact follows_authorizeObject hsurr hg PipelineSet.create _ _

theorem follows_get (input : Except Failure K.Id) :
    Follows answer Eq (g.get c input).carryOut (g.get c' input).carryOut := by
  refine follows_admitting hsurr hs hs' hg PipelineSet.detail ?_
  refine Follows.requestAfter (given input) fun id => ?_
  refine Follows.requestAfter (fetch id) fun entity => ?_
  exact follows_authorizeObject hsurr hg PipelineSet.detail _ _

theorem follows_list (input : Except Failure K.Filter) :
    Follows answer Eq (g.list c input).carryOut (g.list c' input).carryOut := by
  refine follows_admitting hsurr hs hs' hg PipelineSet.list ?_
  refine Follows.requestAfter (given input) fun filter => ?_
  exact follows_authorizeObject hsurr hg PipelineSet.list _ _

theorem follows_update (input : Except Failure K.Patch) :
    Follows answer Eq (g.update c input).carryOut (g.update c' input).carryOut := by
  refine follows_admitting hsurr hs hs' hg PipelineSet.update ?_
  refine Follows.requestAfter (given input) fun patch => ?_
  refine Follows.requestAfter (fetch _) fun entity => ?_
  exact follows_authorizeObject hsurr hg PipelineSet.update _ _

theorem follows_delete (input : Except Failure K.Id) :
    Follows answer Eq (g.delete c input).carryOut (g.delete c' input).carryOut := by
  refine follows_admitting hsurr hs hs' hg PipelineSet.delete ?_
  refine Follows.requestAfter (given input) fun id => ?_
  refine Follows.requestAfter (fetch id) fun entity => ?_
  exact follows_authorizeObject hsurr hg PipelineSet.delete _ _

/-- The check of an operation by itself tells its caller who they are. -/
theorem follows_authorize (op : Op) :
    Follows answer (fun a a' => a = s ∧ a' = s') (g.authorize c op).carryOut
      (g.authorize c' op).carryOut :=
  follows_admitting hsurr hs hs' hg op fun _ => .inr ⟨.ok ⟨rfl, rfl⟩, rfl⟩

end Favoured

end Pipelines

end Gate

end Gatehouse
