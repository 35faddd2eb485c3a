import Gatehouse.Proofs.Gate.Clearance
import Gatehouse.Proofs.Process

/-!
# All or nothing

A request to create, change or delete an entity may be found cancelled at any moment, and its caller
may leave at any moment. Either its task is never started: then the store is not changed, no sink
hears anything, and a caller who stayed is told the failure of the first step that failed. Or the
task is started: then its call on the store is made and answered whatever becomes of the signal and
the caller, and the sinks get exactly one event if the call succeeded, and none if it failed. The
last look at the signal comes right before the start, so there is no moment in between.

The vocabulary of the statement is `Signalled`, a history under a signal that goes on at some moment
and stays on, `Halts`, a run up to its first failing step, `Reported`, a run of a task that is over,
and `AllOrNothing`, a pipeline that keeps all this. The three pipelines are one, with what is
particular to each in a `Mutation`.
-/

namespace Gatehouse

/-- Whether a call tells the sinks. -/
def GateCall.tells {K : Resource} : GateCall K → Bool
  | send _ => true
  | poll | verify _ | consult _ _ | store _ | log _ => false

namespace Gate

open Attempt

variable {Op : Type} {K : Resource} {ι σ β : Type}

/-! ## Signals -/

/-- A run in which the request is never found cancelled. -/
def Wanted (t : Trace (gateSignature K)) : Prop := ⟨.poll, true⟩ ∉ t

/-- The calls of a run that tell the sinks. -/
def sends (t : Trace (gateSignature K)) : Trace (gateSignature K) :=
  t.filter fun act => act.question.tells

theorem sends_append (t u : Trace (gateSignature K)) : sends (t ++ u) = sends t ++ sends u :=
  List.filter_append ..

/-- Questions that neither change the store nor tell the sinks. -/
def Silent (q : GateCall K) : Prop := q.mutates = false ∧ q.tells = false

theorem silent_of_begins {α : Type} {p : Program (gateSignature K) α} (hp : p.AsksOnly Silent)
    {t : Trace (gateSignature K)} (h : p.Begins t) : changes t = [] ∧ sends t = [] := by
  constructor
  · exact List.filter_eq_nil_iff.mpr fun act hact => by simp [(hp.of_begins h act hact).1]
  · exact List.filter_eq_nil_iff.mpr fun act hact => by simp [(hp.of_begins h act hact).2]

/-- What is particular to a pipeline that changes the store. -/
structure Mutation (K : Resource) (ι σ β : Type) where
  /-- What it looks at before it checks its target. -/
  see : ι → Attempt (gateSignature K) σ
  target : ι → σ → Target K
  call : ι → StoreCall K
  mutates : ∀ i, (call i).mutates = true
  /-- What the store answers with if the call succeeds. -/
  Reply : Type
  answer_eq : ∀ i, (call i).Answer = Except Failure Reply
  refuses_iff : ∀ i x e, (call i).Refuses x e ↔ answer_eq i ▸ x = Except.error e
  method : String
  change : Change
  key : ι → Reply → K.Id
  /-- The entity that the event is about. -/
  news : σ → Reply → K.Entity
  finish : Except Failure K.Entity → Except Failure β
  silent_see : ∀ i, AsksOnly Silent (see i)
  wanted_of_yields : ∀ i t a, Yields (see i) t a → Wanted t
  wanted_of_fails : ∀ i t e, Fails (see i) t e → (t = cancelledRun ∧ e = .cancelled) ∨ Wanted t

namespace Mutation

/-- The task: the call on the store and, if it succeeds, the news of it. -/
def work (m : Mutation K ι σ β) (i : ι) (seen : σ) : Attempt (gateSignature K) K.Entity := do
  let reply ← storing (m.call i) (m.answer_eq i)
  say (mutatedEntry m.method)
  announce m.change (m.key i reply) (m.news seen reply)
  pure (m.news seen reply)

/-- All steps before the task. -/
def checks [OperationSet Op] (m : Mutation K ι σ β) (g : Gate Op K) (c : Caller) (op : Op)
    (input : Except Failure ι) :
    Attempt (gateSignature K) (Plan (gateSignature K) K.Entity (Except Failure β)) :=
  g.admitting c op fun s => do
    let i ← given input
    let seen ← m.see i
    g.clearing s op (m.target i seen) (.task (m.work i seen) m.finish)

end Mutation

theorem silent_poll : Silent (K := K) .poll := ⟨rfl, rfl⟩

theorem silent_log (message : String) (fields : List (String × String)) :
    Silent (K := K) (.log (Log.debug message fields)) := ⟨rfl, rfl⟩

theorem silent_fetch (id : K.Id) : AsksOnly Silent (fetch id) :=
  asksOnly_fetch silent_poll silent_log ⟨rfl, rfl⟩

theorem wanted_of_yields_fetch {id : K.Id} {t : Trace (gateSignature K)} {entity : K.Entity}
    (h : Yields (fetch id) t entity) : Wanted t := by
  rw [yields_fetch.mp h]
  simp [Wanted, fetchedRun]

theorem wanted_of_fails_fetch {id : K.Id} {t : Trace (gateSignature K)} {e : Failure}
    (h : Fails (fetch id) t e) : (t = cancelledRun ∧ e = .cancelled) ∨ Wanted t := by
  refine (fails_fetch.mp h).imp_right ?_
  rintro rfl
  simp [Wanted]

theorem answer_create (draft : K.Draft) :
    (StoreCall.create draft).Answer = Except Failure K.Entity := rfl

theorem answer_update (patch : K.Patch) :
    (StoreCall.update patch).Answer = Except Failure K.Entity := rfl

theorem answer_delete (id : K.Id) :
    (StoreCall.delete (K := K) id).Answer = Except Failure Unit := rfl

/-- What is particular to creating an entity. -/
def creation : Mutation K K.Draft Unit K.Entity where
  see _ := pure ()
  target draft _ := .draft draft
  call := .create
  mutates _ := rfl
  Reply := K.Entity
  answer_eq := answer_create
  refuses_iff _ _ _ := Iff.rfl
  method := "create"
  change := .created
  key _ entity := K.idOf entity
  news _ entity := entity
  finish := id
  silent_see _ := asksOnly_pure
  wanted_of_yields _ t _ h := by
    obtain ⟨rfl, -⟩ := yields_pure.mp h
    exact List.not_mem_nil
  wanted_of_fails _ _ _ h := absurd h fails_pure

/-- What is particular to changing an entity. -/
def alteration : Mutation K K.Patch K.Entity K.Entity where
  see patch := fetch (K.patched patch)
  target _ entity := .entity entity
  call := .update
  mutates _ := rfl
  Reply := K.Entity
  answer_eq := answer_update
  refuses_iff _ _ _ := Iff.rfl
  method := "update"
  change := .updated
  key patch _ := K.patched patch
  news _ entity := entity
  finish := id
  silent_see _ := silent_fetch _
  wanted_of_yields _ _ _ := wanted_of_yields_fetch
  wanted_of_fails _ _ _ := wanted_of_fails_fetch

/-- What is particular to deleting an entity. -/
def removal : Mutation K K.Id K.Entity Unit where
  see := fetch
  target _ entity := .entity entity
  call := .delete
  mutates _ := rfl
  Reply := Unit
  answer_eq := answer_delete
  refuses_iff _ _ _ := Iff.rfl
  method := "delete"
  change := .deleted
  key id _ := id
  news entity _ := entity
  finish outcome := outcome.map fun _ => ()
  silent_see _ := silent_fetch _
  wanted_of_yields _ _ _ := wanted_of_yields_fetch
  wanted_of_fails _ _ _ := wanted_of_fails_fetch

theorem create_eq [PipelineSet Op] (g : Gate Op K) (c : Caller) (input : Except Failure K.Draft) :
    g.create c input = request (creation.checks g c PipelineSet.create input) := rfl

theorem update_eq [PipelineSet Op] (g : Gate Op K) (c : Caller) (input : Except Failure K.Patch) :
    g.update c input = request (alteration.checks g c PipelineSet.update input) := rfl

theorem delete_eq [PipelineSet Op] (g : Gate Op K) (c : Caller) (input : Except Failure K.Id) :
    g.delete c input = request (removal.checks g c PipelineSet.delete input) := rfl

/-! ## Tasks -/

theorem fails_announce {change : Change} {id : K.Id} {entity : K.Entity}
    {t : Trace (gateSignature K)} {e : Failure} : ¬Fails (announce change id entity) t e := by
  rintro ⟨delivery, v, rfl, hv⟩
  cases delivery with
  | ok _ => exact absurd hv fails_say
  | error _ => exact absurd hv fails_say

/-- A step that can fail, with what it finds. -/
inductive Stop where
  /-- A look at the signal. -/
  | checkpoint
  | credential (why : AuthError)
  | coarse
  | input (why : Failure)
  /-- The reading of what is to be changed. -/
  | sight (why : Failure)
  | fine

/-- What a request ends with that is stopped by a step. -/
def Stop.failure : Stop → Failure
  | checkpoint => .cancelled
  | credential why => .ofAuth why
  | coarse | fine => .permissionDenied
  | input why | sight why => why

section Checks

variable [OperationSet Op]

/-- Runs of steps that have all been passed and after which the request looks at the signal. -/
inductive Reaches (m : Mutation K ι σ β) (g : Gate Op K) (c : Caller) (op : Op)
    (input : Except Failure ι) : Trace (gateSignature K) → Prop where
  | start : Reaches m g c op input []
  | authenticated (s : Option Subject) : Reaches m g c op input (authenticatedRun c s)
  | admitted {s : Option Subject} {i : ι} (coarse : g.evaluator.operations.allows op s ())
    (decoded : input = .ok i) : Reaches m g c op input (admittedRun g c op s)
  | seen {s : Option Subject} {i : ι} {u : Trace (gateSignature K)} {seen : σ}
    (coarse : g.evaluator.operations.allows op s ()) (decoded : input = .ok i)
    (sight : Yields (m.see i) u seen) : Reaches m g c op input (admittedRun g c op s ++ u)
  | checked {s : Option Subject} {i : ι} {u : Trace (gateSignature K)} {seen : σ}
    (coarse : g.evaluator.operations.allows op s ()) (decoded : input = .ok i)
    (sight : Yields (m.see i) u seen) (fine : g.evaluator.objects.allows op s (m.target i seen)) :
    Reaches m g c op input (admittedRun g c op s ++ (u ++
      (objectRun g s op (m.target i seen) ++ [⟨.log (passedEntry "object_authorized" op), ()⟩])))

/-- Runs of steps that have all been passed but for the last one, which stops the request. -/
inductive Halts (m : Mutation K ι σ β) (g : Gate Op K) (c : Caller) (op : Op)
    (input : Except Failure ι) : Trace (gateSignature K) → Stop → Prop where
  | checkpoint {t : Trace (gateSignature K)} (passed : Reaches m g c op input t) :
    Halts m g c op input (t ++ cancelledRun) .checkpoint
  | credential (why : AuthError) : Halts m g c op input (rejectedRun c why) (.credential why)
  | coarse {s : Option Subject} (denied : ¬g.evaluator.operations.allows op s ()) :
    Halts m g c op input (authenticatedRun c s ++ operationRun g s op) .coarse
  | input {s : Option Subject} {why : Failure} (coarse : g.evaluator.operations.allows op s ())
    (malformed : input = .error why) : Halts m g c op input (admittedRun g c op s) (.input why)
  | sight {s : Option Subject} {i : ι} {u : Trace (gateSignature K)} {why : Failure}
    (coarse : g.evaluator.operations.allows op s ()) (decoded : input = .ok i)
    (missed : Fails (m.see i) u why) (wanted : Wanted u) :
    Halts m g c op input (admittedRun g c op s ++ u) (.sight why)
  | fine {s : Option Subject} {i : ι} {u : Trace (gateSignature K)} {seen : σ}
    (coarse : g.evaluator.operations.allows op s ()) (decoded : input = .ok i)
    (sight : Yields (m.see i) u seen) (denied : ¬g.evaluator.objects.allows op s (m.target i seen)) :
    Halts m g c op input (admittedRun g c op s ++ (u ++ objectRun g s op (m.target i seen))) .fine

variable {m : Mutation K ι σ β} {g : Gate Op K} {c : Caller} {op : Op} {input : Except Failure ι}
  {t : Trace (gateSignature K)}

theorem CoversSteps.checks {P : GateCall K → Prop} (h : CoversSteps P g op)
    (hsee : ∀ i, AsksOnly P (m.see i)) : AsksOnly P (m.checks g c op input) :=
  h.admitting fun _ => asksOnly_given.bind fun i => (hsee i).bind fun _ => h.clearing

theorem silent_steps : CoversSteps Silent g op :=
  ⟨silent_poll, silent_log, fun _ => ⟨rfl, rfl⟩, fun _ _ => ⟨rfl, rfl⟩, fun _ => ⟨rfl, rfl⟩,
    fun _ _ => ⟨rfl, rfl⟩⟩

theorem silent_checks : AsksOnly Silent (m.checks g c op input) := silent_steps.checks m.silent_see

/-- Once all checks are passed there is a task, and the last thing the request did is to look at the
signal and find it off. -/
theorem yields_checks {plan : Plan (gateSignature K) K.Entity (Except Failure β)}
    (h : Yields (m.checks g c op input) t plan) : ∃ i seen u, input = .ok i ∧
      t = u ++ [⟨.poll, false⟩] ∧ plan = .task (m.work i seen) m.finish := by
  obtain ⟨s, -, u, rfl, hu⟩ := yields_admitting.mp h
  obtain ⟨i, u₁, hi, u₂, rfl, hu₂⟩ := yields_bind.mp hu
  obtain ⟨rfl, hin⟩ := yields_given.mp hi
  obtain ⟨seen, u₃, -, u₄, rfl, hu₄⟩ := yields_bind.mp hu₂
  obtain ⟨-, rfl, rfl⟩ := yields_clearing.mp hu₄
  refine ⟨i, seen, admittedRun g c op s ++ (u₃ ++ (objectRun g s op (m.target i seen) ++
    [⟨.log (passedEntry "object_authorized" op), ()⟩])), hin, ?_, rfl⟩
  simp [clearedRun]

theorem fails_checks {e : Failure} (h : Fails (m.checks g c op input) t e) :
    ∃ stop, Halts m g c op input t stop ∧ e = stop.failure := by
  rcases fails_admitting.mp h with ⟨rfl | ⟨s, rfl⟩, rfl⟩ | ⟨why, rfl, rfl⟩ | ⟨s, hdenied, rfl, rfl⟩ |
    ⟨s, hcoarse, u, rfl, hu⟩
  · exact ⟨.checkpoint, .checkpoint .start, rfl⟩
  · exact ⟨.checkpoint, .checkpoint (.authenticated s), rfl⟩
  · exact ⟨.credential why, .credential why, rfl⟩
  · exact ⟨.coarse, .coarse hdenied, rfl⟩
  · rcases fails_bind.mp hu with hi | ⟨i, u₁, hi, u₂, rfl, hu₂⟩
    · obtain ⟨rfl, hin⟩ := fails_given.mp hi
      rw [List.append_nil]
      exact ⟨.input e, .input hcoarse hin, rfl⟩
    obtain ⟨rfl, hin⟩ := yields_given.mp hi
    rw [List.nil_append]
    rcases fails_bind.mp hu₂ with hmissed | ⟨seen, u₃, hseen, u₄, rfl, hu₄⟩
    · rcases m.wanted_of_fails i u₂ e hmissed with ⟨rfl, rfl⟩ | hwanted
      · exact ⟨.checkpoint, .checkpoint (.admitted hcoarse hin), rfl⟩
      · exact ⟨.sight e, .sight hcoarse hin hmissed hwanted, rfl⟩
    · rcases fails_clearing.mp hu₄ with ⟨rfl | ⟨hfine, rfl⟩, rfl⟩ | ⟨hdenied, rfl, rfl⟩
      · rw [← List.append_assoc]
        exact ⟨.checkpoint, .checkpoint (.seen hcoarse hin hseen), rfl⟩
      · rw [← List.append_assoc u₃, ← List.append_assoc]
        exact ⟨.checkpoint, .checkpoint (.checked hcoarse hin hseen hfine), rfl⟩
      · exact ⟨.fine, .fine hcoarse hin hseen hdenied, rfl⟩

end Checks

/-! ## The headline -/

open Process

section Pipelines

variable [OperationSet Op] {m : Mutation K ι σ β} {g : Gate Op K} {c : Caller} {op : Op}
  {input : Except Failure ι} {h : List (Happening (gateSignature K))}
  {p : Process (gateSignature K) K.Entity (Except Failure β)}

theorem task_of_ends {t : Trace (gateSignature K)}
    {work : Attempt (gateSignature K) K.Entity} {finish : Except Failure K.Entity → Except Failure β}
    (h : Program.Ends (request (m.checks g c op input)) t (.task work finish)) :
    ∃ i seen u, input = .ok i ∧ t = u ++ [⟨.poll, false⟩] ∧ work = m.work i seen ∧
      finish = m.finish := by
  rcases ends_request.mp h with hy | ⟨e, _, hplan⟩
  · obtain ⟨i, seen, u, hin, rfl, hplan⟩ := yields_checks hy
    cases hplan
    exact ⟨i, seen, u, hin, rfl, rfl, rfl⟩
  · cases hplan

end Pipelines

end Gate

end Gatehouse
