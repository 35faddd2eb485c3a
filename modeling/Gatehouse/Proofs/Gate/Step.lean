import Gatehouse.Proofs.Policy.Chain
import Gatehouse.Proofs.Run

/-!
# Runs of the gate's steps

What each step of a pipeline asks, and what it ends with. For every step one fact says how it
succeeds and one how it fails, and each gives the whole run: a pipeline is then taken apart step by
step, without a look into the steps.
-/

namespace Gatehouse

/-- Whether an answer of a store is this failure. -/
def StoreCall.Refuses {K : Resource} : (c : StoreCall K) → c.Answer → Failure → Prop
  | get _, x, e => x = .error e
  | create _, x, e => x = .error e
  | update _, x, e => x = .error e
  | delete _, x, e => x = .error e
  | list _, x, e => x = .error e
  | count _, x, e => x = .error e

namespace Gate

open Attempt

variable {Op : Type} {K : Resource}

/-! ## Questions -/

theorem yields_asking {q : GateCall K} {t : Trace (gateSignature K)} {x : q.Answer} :
    Yields (asking q) t x ↔ t = [⟨q, x⟩] := by
  constructor
  · rintro ⟨y, u, rfl, rfl, h⟩
    cases h
    rfl
  · rintro rfl
    exact ⟨x, [], rfl, rfl, rfl⟩

theorem fails_asking {q : GateCall K} {t : Trace (gateSignature K)} {e : Failure} :
    ¬Fails (asking q) t e := by
  rintro ⟨y, u, rfl, rfl, h⟩
  cases h

@[simp] theorem yields_poll {t : Trace (gateSignature K)} {b : Bool} :
    Yields (α := Bool) (asking .poll) t b ↔ t = [⟨.poll, b⟩] := yields_asking

@[simp] theorem fails_poll {t : Trace (gateSignature K)} {e : Failure} :
    ¬Fails (α := Bool) (asking .poll) t e := fails_asking

@[simp] theorem yields_verify {t : Trace (gateSignature K)} {c : Option String}
    {x : Except AuthError (Option Subject)} :
    Yields (α := Except AuthError (Option Subject)) (asking (.verify c)) t x ↔
      t = [⟨.verify c, x⟩] := yields_asking

@[simp] theorem fails_verify {t : Trace (gateSignature K)} {c : Option String} {e : Failure} :
    ¬Fails (α := Except AuthError (Option Subject)) (asking (.verify c)) t e := fails_asking

@[simp] theorem yields_consult {t : Trace (gateSignature K)} {l : PolicyLevel}
    {ms : List String} {u : Unit} :
    Yields (α := Unit) (asking (.consult l ms)) t u ↔ t = [⟨.consult l ms, ()⟩] := yields_asking

@[simp] theorem fails_consult {t : Trace (gateSignature K)} {l : PolicyLevel}
    {ms : List String} {e : Failure} :
    ¬Fails (α := Unit) (asking (.consult l ms)) t e := fails_asking

@[simp] theorem yields_say {entry : Log.Entry} {t : Trace (gateSignature K)} {u : Unit} :
    Yields (say entry) t u ↔ t = [⟨.log entry, ()⟩] := yields_asking

@[simp] theorem fails_say {entry : Log.Entry} {t : Trace (gateSignature K)} {e : Failure} :
    ¬Fails (say entry) t e := fails_asking

theorem yields_storing {c : StoreCall K} {α : Type} {h : c.Answer = Except Failure α}
    {t : Trace (gateSignature K)} {a : α} :
    Yields (storing c h) t a ↔ ∃ x : c.Answer, t = [⟨.store c, x⟩] ∧ h ▸ x = Except.ok a := by
  constructor
  · rintro ⟨x, u, rfl, rfl, hx⟩
    exact ⟨x, rfl, hx⟩
  · rintro ⟨x, rfl, hx⟩
    exact ⟨x, [], rfl, rfl, hx⟩

theorem fails_storing {c : StoreCall K} {α : Type} {h : c.Answer = Except Failure α}
    {t : Trace (gateSignature K)} {e : Failure} :
    Fails (storing c h) t e ↔ ∃ x : c.Answer, t = [⟨.store c, x⟩] ∧ h ▸ x = Except.error e := by
  constructor
  · rintro ⟨x, u, rfl, rfl, hx⟩
    exact ⟨x, rfl, hx⟩
  · rintro ⟨x, rfl, hx⟩
    exact ⟨x, [], rfl, rfl, hx⟩

theorem begins_asking_concat {q : GateCall K} {t : Trace (gateSignature K)}
    {a : (gateSignature K).Act} (h : Program.Begins (asking q).run (t ++ [a])) :
    t = [] ∧ a.question = q :=
  Program.begins_call_concat h

theorem begins_storing_concat {c : StoreCall K} {α : Type} {h : c.Answer = Except Failure α}
    {t : Trace (gateSignature K)} {a : (gateSignature K).Act}
    (hb : Program.Begins (storing c h).run (t ++ [a])) : t = [] ∧ a.question = .store c :=
  Program.begins_call_concat (S := gateSignature K) hb

@[simp] theorem yields_given {α : Type} {x : Except Failure α} {t : Trace (gateSignature K)}
    {a : α} : Yields (given x) t a ↔ t = [] ∧ x = .ok a := Iff.rfl

@[simp] theorem fails_given {α : Type} {x : Except Failure α} {t : Trace (gateSignature K)}
    {e : Failure} : Fails (given x) t e ↔ t = [] ∧ x = .error e := Iff.rfl

/-! ## Checkpoints -/

/-- The run of a checkpoint that finds the request cancelled. -/
def cancelledRun : Trace (gateSignature K) :=
  [⟨.poll, true⟩, ⟨.log (Log.debug "request cancelled before mutation" [("state", "error")]), ()⟩]

@[simp] theorem yields_checkpoint {t : Trace (gateSignature K)} {u : Unit} :
    Yields checkpoint t u ↔ t = [⟨.poll, false⟩] := by
  simp [checkpoint, yields_bind]

@[simp] theorem fails_checkpoint {t : Trace (gateSignature K)} {e : Failure} :
    Fails checkpoint t e ↔ t = cancelledRun ∧ e = .cancelled := by
  simp [checkpoint, fails_bind, cancelledRun, @eq_comm _ e]

/-! ## Authentication -/

/-- The run of an authentication that finds out who the caller is. -/
def authenticatedRun (c : Caller) (s : Option Subject) : Trace (gateSignature K) :=
  [⟨.poll, false⟩, ⟨.verify c.token, .ok s⟩, ⟨.log (authenticatedEntry s), ()⟩]

/-- The run of an authentication whose credential does not verify. -/
def rejectedRun (c : Caller) (a : AuthError) : Trace (gateSignature K) :=
  [⟨.poll, false⟩, ⟨.verify c.token, .error a⟩,
    ⟨.log (Log.debug "authentication failed" [("state", "error"), ("error", a.message)]), ()⟩]

theorem yields_authenticate {c : Caller} {t : Trace (gateSignature K)} {s : Option Subject} :
    Yields (authenticate c) t s ↔ t = authenticatedRun c s := by
  rw [authenticate, yields_bind]
  constructor
  · rintro ⟨_, t₁, h₁, t₂, rfl, h₂⟩
    obtain ⟨x, t₃, h₃, t₄, rfl, h₄⟩ := yields_bind.mp h₂
    rw [yields_checkpoint.mp h₁, yields_verify.mp h₃]
    cases x with
    | ok s' =>
      obtain ⟨_, t₅, h₅, t₆, rfl, h₆⟩ := yields_bind.mp h₄
      obtain ⟨rfl, rfl⟩ := yields_pure.mp h₆
      rw [yields_say.mp h₅]
      rfl
    | error a =>
      obtain ⟨_, t₅, h₅, t₆, rfl, h₆⟩ := yields_bind.mp h₄
      exact absurd h₆ yields_throw
  · rintro rfl
    refine ⟨(), _, yields_checkpoint.mpr rfl, _, rfl, yields_bind.mpr ?_⟩
    refine ⟨.ok s, _, yields_verify.mpr rfl, _, rfl, yields_bind.mpr ?_⟩
    exact ⟨(), _, yields_say.mpr rfl, _, rfl, yields_pure.mpr ⟨rfl, rfl⟩⟩

theorem fails_authenticate {c : Caller} {t : Trace (gateSignature K)} {e : Failure} :
    Fails (authenticate c) t e ↔
      (t = cancelledRun ∧ e = .cancelled) ∨ ∃ a, t = rejectedRun c a ∧ e = .ofAuth a := by
  rw [authenticate, fails_bind, fails_checkpoint]
  refine or_congr_right ?_
  constructor
  · rintro ⟨_, t₁, h₁, t₂, rfl, h₂⟩
    rcases fails_bind.mp h₂ with h₃ | ⟨x, t₃, h₃, t₄, rfl, h₄⟩
    · exact absurd h₃ fails_verify
    · rw [yields_checkpoint.mp h₁, yields_verify.mp h₃]
      cases x with
      | ok s =>
        rcases fails_bind.mp h₄ with h₅ | ⟨_, t₅, h₅, t₆, rfl, h₆⟩
        · exact absurd h₅ fails_say
        · exact absurd h₆ fails_pure
      | error a =>
        rcases fails_bind.mp h₄ with h₅ | ⟨_, t₅, h₅, t₆, rfl, h₆⟩
        · exact absurd h₅ fails_say
        · obtain ⟨rfl, rfl⟩ := fails_throw.mp h₆
          rw [yields_say.mp h₅]
          exact ⟨a, rfl, rfl⟩
  · rintro ⟨a, rfl, rfl⟩
    refine ⟨(), _, yields_checkpoint.mpr rfl, _, rfl, fails_bind.mpr (.inr ?_)⟩
    refine ⟨.error a, _, yields_verify.mpr rfl, _, rfl, fails_bind.mpr (.inr ?_)⟩
    exact ⟨(), _, yields_say.mpr rfl, _, rfl, fails_throw.mpr ⟨rfl, rfl⟩⟩

/-! ## Checks -/

/-- The run of a check up to its verdict. -/
def verdictRun (l : PolicyLevel) (marks : List String) (entry : Log.Entry) :
    Trace (gateSignature K) :=
  [⟨.poll, false⟩, ⟨.consult l marks, ()⟩, ⟨.log entry, ()⟩]

/-- A check of either level, given its verdict. -/
def judged (l : PolicyLevel) (marks : List String)
    (verdict : Except PolicyError Unit × Log.Entry) (passed : Log.Entry) :
    Attempt (gateSignature K) Unit := do
  checkpoint
  asking (.consult l marks)
  say verdict.2
  given (verdict.1.mapError .ofPolicy)
  say passed

theorem yields_judged {l : PolicyLevel} {marks : List String} {b : Prop} [Decidable b]
    {verdict : Except PolicyError Unit × Log.Entry} {passed : Log.Entry}
    (hv : verdict.1 = if b then .ok () else .error .permissionDenied)
    {t : Trace (gateSignature K)} {u : Unit} :
    Yields (judged l marks verdict passed) t u ↔
      b ∧ t = verdictRun l marks verdict.2 ++ [⟨.log passed, ()⟩] := by
  by_cases hb : b <;> simp [judged, yields_bind, verdictRun, hv, hb, Except.mapError]

theorem fails_judged {l : PolicyLevel} {marks : List String} {b : Prop} [Decidable b]
    {verdict : Except PolicyError Unit × Log.Entry} {passed : Log.Entry}
    (hv : verdict.1 = if b then .ok () else .error .permissionDenied)
    {t : Trace (gateSignature K)} {e : Failure} :
    Fails (judged l marks verdict passed) t e ↔
      (t = cancelledRun ∧ e = .cancelled) ∨
        (¬b ∧ t = verdictRun l marks verdict.2 ∧ e = .permissionDenied) := by
  by_cases hb : b <;>
    simp [judged, fails_bind, verdictRun, hv, hb, Except.mapError, Failure.ofPolicy, @eq_comm _ e]

section Levels

variable [OperationSet Op] {g : Gate Op K} {s : Option Subject} {op : Op}

/-- The run of a coarse check up to its verdict. -/
def operationRun (g : Gate Op K) (s : Option Subject) (op : Op) : Trace (gateSignature K) :=
  verdictRun .operation ((g.evaluator.operations.asked op s ()).filterMap Checker.mark)
    (g.evaluator.judgeOperation s op).2

/-- The run of the check of a target up to its verdict. -/
def objectRun (g : Gate Op K) (s : Option Subject) (op : Op) (target : Target K) :
    Trace (gateSignature K) :=
  verdictRun .object ((g.evaluator.objects.asked op s target).filterMap Checker.mark)
    (g.evaluator.judgeObject s op target).2

theorem authorizeOperation_eq : g.authorizeOperation s op =
    judged .operation ((g.evaluator.operations.asked op s ()).filterMap Checker.mark)
      (g.evaluator.judgeOperation s op) (passedEntry "operation_authorized" op) := rfl

theorem authorizeObject_eq {target : Target K} : g.authorizeObject s op target =
    judged .object ((g.evaluator.objects.asked op s target).filterMap Checker.mark)
      (g.evaluator.judgeObject s op target) (passedEntry "object_authorized" op) := rfl

theorem yields_authorizeOperation {t : Trace (gateSignature K)} {u : Unit} :
    Yields (g.authorizeOperation s op) t u ↔ g.evaluator.operations.allows op s () ∧
      t = operationRun g s op ++ [⟨.log (passedEntry "operation_authorized" op), ()⟩] := by
  rw [authorizeOperation_eq]
  exact yields_judged (g.evaluator.judgeOperation_fst s op)

theorem fails_authorizeOperation {t : Trace (gateSignature K)} {e : Failure} :
    Fails (g.authorizeOperation s op) t e ↔ (t = cancelledRun ∧ e = .cancelled) ∨
      (¬g.evaluator.operations.allows op s () ∧ t = operationRun g s op ∧
        e = .permissionDenied) := by
  rw [authorizeOperation_eq]
  exact fails_judged (g.evaluator.judgeOperation_fst s op)

theorem yields_authorizeObject {target : Target K} {t : Trace (gateSignature K)} {u : Unit} :
    Yields (g.authorizeObject s op target) t u ↔ g.evaluator.objects.allows op s target ∧
      t = objectRun g s op target ++ [⟨.log (passedEntry "object_authorized" op), ()⟩] := by
  rw [authorizeObject_eq]
  exact yields_judged (g.evaluator.judgeObject_fst s op target)

theorem fails_authorizeObject {target : Target K} {t : Trace (gateSignature K)} {e : Failure} :
    Fails (g.authorizeObject s op target) t e ↔ (t = cancelledRun ∧ e = .cancelled) ∨
      (¬g.evaluator.objects.allows op s target ∧ t = objectRun g s op target ∧
        e = .permissionDenied) := by
  rw [authorizeObject_eq]
  exact fails_judged (g.evaluator.judgeObject_fst s op target)

end Levels

/-! ## Fetching -/

/-- The run of a fetch that finds the entity. -/
def fetchedRun (id : K.Id) (entity : K.Entity) : Trace (gateSignature K) :=
  [⟨.poll, false⟩, ⟨.store (.get id), .ok entity⟩,
    ⟨.log (Log.debug "store.get completed" [("state", "business_invoked")]), ()⟩]

theorem yields_fetch {id : K.Id} {t : Trace (gateSignature K)} {entity : K.Entity} :
    Yields (fetch id) t entity ↔ t = fetchedRun id entity := by
  simp [fetch, yields_bind, yields_storing, fetchedRun, -bind_pure_comp]

theorem fails_fetch {id : K.Id} {t : Trace (gateSignature K)} {e : Failure} :
    Fails (fetch id) t e ↔ (t = cancelledRun ∧ e = .cancelled) ∨
      t = [⟨.poll, false⟩, ⟨.store (.get id), .error e⟩] := by
  simp [fetch, fails_bind, yields_storing, fails_storing, -bind_pure_comp]

/-! ## What the steps ask -/

section Questions

variable {P : GateCall K → Prop}

theorem asksOnly_asking {q : GateCall K} (h : P q) : AsksOnly P (asking q) :=
  ⟨h, fun _ => trivial⟩

theorem asksOnly_storing {c : StoreCall K} {α : Type} {hc : c.Answer = Except Failure α}
    (h : P (.store c)) : AsksOnly P (storing c hc) :=
  ⟨h, fun _ => trivial⟩

theorem asksOnly_given {α : Type} {x : Except Failure α} : AsksOnly P (given x) := trivial

variable (hpoll : P .poll) (hlog : ∀ message fields, P (.log (Log.debug message fields)))
include hpoll hlog

theorem asksOnly_checkpoint : AsksOnly P (checkpoint : Attempt (gateSignature K) Unit) := by
  refine (asksOnly_asking hpoll).bind fun b => ?_
  cases b with
  | false => exact asksOnly_pure
  | true => exact (asksOnly_asking (hlog _ _)).bind fun _ => asksOnly_throw

theorem asksOnly_authenticate {c : Caller} (hverify : P (.verify c.token)) :
    AsksOnly P (authenticate c : Attempt (gateSignature K) (Option Subject)) := by
  refine (asksOnly_checkpoint hpoll hlog).bind fun _ => (asksOnly_asking hverify).bind fun x => ?_
  cases x with
  | ok s => exact (asksOnly_asking (hlog _ _)).bind fun _ => asksOnly_pure
  | error a => exact (asksOnly_asking (hlog _ _)).bind fun _ => asksOnly_throw

theorem asksOnly_judged {l : PolicyLevel} {marks : List String}
    {verdict : Except PolicyError Unit × Log.Entry} {passed : Log.Entry}
    (hconsult : P (.consult l marks)) (hverdict : P (.log verdict.2)) (hpassed : P (.log passed)) :
    AsksOnly P (judged l marks verdict passed) :=
  (asksOnly_checkpoint hpoll hlog).bind fun _ => (asksOnly_asking hconsult).bind fun _ =>
    (asksOnly_asking hverdict).bind fun _ => asksOnly_given.bind fun _ => asksOnly_asking hpassed

theorem asksOnly_fetch {id : K.Id} (hget : P (.store (.get id))) : AsksOnly P (fetch id) :=
  (asksOnly_checkpoint hpoll hlog).bind fun _ => (asksOnly_storing hget).bind fun _ =>
    (asksOnly_asking (hlog _ _)).bind fun _ => asksOnly_pure

omit hpoll in
theorem asksOnly_announce {change : Change} {id : K.Id} {entity : K.Entity}
    (hsend : P (.send ⟨change, entity⟩))
    (hfailed : ∀ fields, P (.log (Log.error s!"can't send '{change.name}' event" fields))) :
    AsksOnly P (announce change id entity) := by
  refine (asksOnly_asking hsend).bind fun x => ?_
  cases x with
  | ok u => exact asksOnly_asking (hlog _ _)
  | error e => exact asksOnly_asking (hfailed _)

end Questions

end Gate

end Gatehouse
