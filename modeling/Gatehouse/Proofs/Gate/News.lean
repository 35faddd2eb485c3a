import Gatehouse.Proofs.Gate.Completion
import Gatehouse.Proofs.Surroundings

/-!
# News of changes

A change that the store has made is told to the sinks by one event, and a change that it has refused
is not told at all. The event holds the very entity that the store has returned, or, after a
deletion, the entity that was read and checked before. What the sinks make of it concerns nobody: a
failed delivery leaves one entry in the log, and neither the answer to the caller nor the state of the
store depends on it.

The vocabulary of the statement is `Backdrop`, all that a request meets besides the sinks, `Blind`, a
pipeline that goes its way whatever the sinks answer, `Heard`, a run with one event and what is
logged about it, and `Unheard`, a run without one.
-/

namespace Gatehouse

/-! ## Entries about verdicts -/

/-- A check that is passed is a detail to the log. -/
theorem Evaluator.level_conclude {Op Q : Type} [OperationSet Op] (level : PolicyLevel)
    (t : Table Op Q) (op : Op) (s : Option Subject) (q : Q) (details : List (String × String))
    (h : t.allows op s q) : (conclude level op s details (t.judge op s q)).2.level = .debug := by
  rw [Table.judge]
  split
  · rename_i hnil
    simp [Table.allows, hnil] at h
  · split <;> rfl

namespace Gate

open Attempt

variable {Op : Type} {K : Resource} {ι σ β τ : Type}

/-- What a run writes to the log as an error. -/
def complaints (t : Trace (gateSignature K)) : List Log.Entry :=
  t.filterMap fun
    | ⟨.log entry, _⟩ => if entry.level = .error then some entry else none
    | _ => none

theorem complaints_append (t u : Trace (gateSignature K)) :
    complaints (t ++ u) = complaints t ++ complaints u :=
  List.filterMap_append ..

/-! ## Tasks -/

/-- The entry about an event that could not be delivered. -/
def undelivered (change : Change) (id : K.Id) (e : NotifyError) : Log.Entry :=
  Log.error s!"can't send '{change.name}' event" [("operation", change.name),
    ("resource_id", K.idText id), ("error", e.message)]

/-- The entry about an event after it was sent. -/
def deliveryEntry (change : Change) (id : K.Id) : Delivery → Log.Entry
  | .ok () => Log.debug "event sent" [("state", "completed"), ("operation", change.name)]
  | .error e => undelivered change id e

theorem yields_announce_iff {change : Change} {id : K.Id} {entity : K.Entity}
    {t : Trace (gateSignature K)} {u : Unit} : Yields (announce change id entity) t u ↔
      ∃ d, t = [⟨.send ⟨change, entity⟩, d⟩, ⟨.log (deliveryEntry change id d), ()⟩] := by
  constructor
  · intro ⟨d, v, hv, hrest⟩
    subst hv
    refine ⟨d, ?_⟩
    cases d with
    | ok _ =>
      obtain ⟨_, w, rfl, rfl, -⟩ := hrest
      rfl
    | error e =>
      obtain ⟨_, w, rfl, rfl, -⟩ := hrest
      rfl
  · intro ⟨d, ht⟩
    subst ht
    refine ⟨d, _, rfl, ?_⟩
    cases d with
    | ok _ => exact ⟨(), [], rfl, rfl, rfl⟩
    | error e => exact ⟨(), [], rfl, rfl, rfl⟩

variable {m : Mutation K ι σ β} {i : ι} {seen : σ} {t : Trace (gateSignature K)}

/-- The run of a task whose call on the store succeeds. -/
def toldRun (m : Mutation K ι σ β) (i : ι) (seen : σ) (x : (m.call i).Answer) (reply : m.Reply)
    (d : Delivery) : Trace (gateSignature K) :=
  [⟨.store (m.call i), x⟩, ⟨.log (mutatedEntry m.method), ()⟩,
    ⟨.send ⟨m.change, m.news seen reply⟩, d⟩,
    ⟨.log (deliveryEntry m.change (m.key i reply) d), ()⟩]

theorem yields_work {entity : K.Entity} : Yields (m.work i seen) t entity ↔
    ∃ x reply d, m.answer_eq i ▸ x = Except.ok reply ∧ m.news seen reply = entity ∧
      t = toldRun m i seen x reply d := by
  rw [Mutation.work, yields_bind]
  constructor
  · intro ⟨reply, t₁, hcall, t₂, ht, h₂⟩
    obtain ⟨x, rfl, hx⟩ := yields_storing.mp hcall
    obtain ⟨_, t₃, hsay, t₄, rfl, h₄⟩ := yields_bind.mp h₂
    obtain ⟨_, t₅, hannounce, t₆, rfl, h₆⟩ := yields_bind.mp h₄
    obtain ⟨rfl, hentity⟩ := yields_pure.mp h₆
    obtain ⟨d, rfl⟩ := yields_announce_iff.mp hannounce
    rw [yields_say.mp hsay] at ht
    exact ⟨x, reply, d, hx, hentity, ht⟩
  · intro ⟨x, reply, d, hx, hentity, ht⟩
    refine ⟨reply, _, yields_storing.mpr ⟨x, rfl, hx⟩, _, ht, yields_bind.mpr ?_⟩
    refine ⟨(), _, yields_say.mpr rfl, _, rfl, yields_bind.mpr ?_⟩
    exact ⟨(), _, yields_announce_iff.mpr ⟨d, rfl⟩, [], rfl, yields_pure.mpr ⟨rfl, hentity⟩⟩

/-- A task fails if its call on the store does, and for no other reason. -/
theorem fails_work {e : Failure} : Fails (m.work i seen) t e ↔
    ∃ x : (m.call i).Answer, t = [⟨.store (m.call i), x⟩] ∧ m.answer_eq i ▸ x = Except.error e := by
  rw [Mutation.work, fails_bind, fails_storing]
  refine or_iff_left_of_imp ?_
  intro ⟨reply, t₁, _, t₂, _, h₂⟩
  rcases fails_bind.mp h₂ with h₃ | ⟨_, t₃, _, t₄, _, h₄⟩
  · exact absurd h₃ fails_say
  · rcases fails_bind.mp h₄ with h₅ | ⟨_, t₅, _, t₆, _, h₆⟩
    · exact absurd h₅ fails_announce
    · exact absurd h₆ fails_pure

/-- A task tells the sinks once the store has made the change, and nothing but the news of it. -/
theorem told_of_begins_work {e : Event K.Entity} {d : Delivery}
    (h : Program.Begins (m.work i seen).run (t ++ [⟨.send e, d⟩])) :
    ∃ (x : (m.call i).Answer) (reply : m.Reply), m.answer_eq i ▸ x = Except.ok reply ∧
      e = ⟨m.change, m.news seen reply⟩ ∧
      t = [⟨.store (m.call i), x⟩, ⟨.log (mutatedEntry m.method), ()⟩] := by
  rcases begins_bind_concat h with hcall | ⟨reply, t₁, t₂, hcall, rfl, h₂⟩
  · cases (begins_storing_concat hcall).2
  obtain ⟨x, rfl, hx⟩ := yields_storing.mp hcall
  rcases begins_bind_concat h₂ with hsay | ⟨_, t₃, t₄, hsay, rfl, h₄⟩
  · cases (begins_asking_concat hsay).2
  obtain rfl := yields_say.mp hsay
  rcases begins_bind_concat h₄ with hannounce | ⟨_, t₅, t₆, -, rfl, h₆⟩
  · rcases begins_bind_concat hannounce with hsend | ⟨y, t₇, t₈, -, rfl, h₈⟩
    · obtain ⟨rfl, he⟩ := begins_asking_concat hsend
      cases he
      exact ⟨x, reply, hx, rfl, rfl⟩
    -- After the event there is only an entry to write to the log.
    · cases y with
      | ok _ => cases (begins_asking_concat h₈).2
      | error _ => cases (begins_asking_concat h₈).2
  · exact absurd h₆ (List.append_ne_nil_of_right_ne_nil t₆ (List.cons_ne_nil _ _))

/-- In front of a store with a state, which neither the log nor the sinks change, a task ends with what
the store answers to its one call. -/
theorem answered_of_work {step : τ → (gateSignature K).Act → τ → Prop} {w w' : τ}
    (hlog : ∀ w entry w', step w ⟨.log entry, ()⟩ w' → w' = w)
    (hsend : ∀ w e d w', step w ⟨.send e, d⟩ w' → w' = w) {y : Except Failure K.Entity}
    (h : Program.Ends (m.work i seen).run t y) (ht : Leads step w t w') :
    ∃ x : (m.call i).Answer, step w ⟨.store (m.call i), x⟩ w' ∧
      y = (m.answer_eq i ▸ x : Except Failure m.Reply).map (m.news seen) := by
  cases y with
  | error e =>
    obtain ⟨x, rfl, hx⟩ := fails_work.mp h
    obtain ⟨w₁, hcall, hrest⟩ := leads_cons.mp ht
    rw [leads_nil.mp hrest]
    exact ⟨x, hcall, by rw [hx]; rfl⟩
  | ok entity =>
    obtain ⟨x, reply, d, hx, rfl, rfl⟩ := yields_work.mp h
    obtain ⟨w₁, hcall, hsaid⟩ := leads_cons.mp ht
    obtain ⟨w₂, h₂, hsent⟩ := leads_cons.mp hsaid
    obtain ⟨w₃, h₃, hdelivered⟩ := leads_cons.mp hsent
    obtain ⟨w₄, h₄, hrest⟩ := leads_cons.mp hdelivered
    obtain rfl := hlog _ _ _ h₂
    obtain rfl := hsend _ _ _ _ h₃
    obtain rfl := hlog _ _ _ h₄
    rw [leads_nil.mp hrest]
    exact ⟨x, hcall, by rw [hx]; rfl⟩

/-! ## Whole requests -/

section Requests

variable [OperationSet Op] {g : Gate Op K} {c : Caller} {op : Op} {input : Except Failure ι}
  {s : Option Subject} {x : Except Failure β}

/-- A run of the steps before a task, all of which were passed. -/
structure Passed (m : Mutation K ι σ β) (g : Gate Op K) (c : Caller) (op : Op)
    (input : Except Failure ι) (s : Option Subject) (i : ι) (seen : σ)
    (t : Trace (gateSignature K)) : Prop where
  decoded : input = .ok i
  coarse : g.evaluator.operations.allows op s ()
  fine : g.evaluator.objects.allows op s (m.target i seen)
  run : ∃ u, Yields (m.see i) u seen ∧
    t = admittedRun g c op s ++ (u ++ clearedRun g s op (m.target i seen))

theorem passed_of_yields {plan : Plan (gateSignature K) K.Entity (Except Failure β)}
    (h : Yields (m.checks g c op input) t plan) : ∃ s i seen,
      Passed m g c op input s i seen t ∧ plan = .task (m.work i seen) m.finish := by
  obtain ⟨s, hcoarse, u, rfl, hu⟩ := yields_admitting.mp h
  obtain ⟨i, u₁, hi, u₂, rfl, hu₂⟩ := yields_bind.mp hu
  obtain ⟨rfl, hin⟩ := yields_given.mp hi
  obtain ⟨seen, u₃, hseen, u₄, rfl, hu₄⟩ := yields_bind.mp hu₂
  obtain ⟨hfine, rfl, rfl⟩ := yields_clearing.mp hu₄
  exact ⟨s, i, seen, ⟨hin, hcoarse, hfine, u₃, hseen, rfl⟩, rfl⟩

theorem silent_of_begins_checks (h : Program.Begins (m.checks g c op input).run t) :
    changes t = [] ∧ sends t = [] :=
  silent_of_begins silent_checks h

/-- A request that is over was stopped by one of its steps, or has passed them all and its task is
over too. Nothing is changed and nobody is told before the task. -/
theorem ends_mutation (h : (request (m.checks g c op input)).carryOut.Ends t x) :
    (∃ stop, Halts m g c op input t stop ∧ changes t = [] ∧ sends t = [] ∧
      x = .error stop.failure) ∨
      ∃ s i seen t₁ t₂ y, Passed m g c op input s i seen t₁ ∧ changes t₁ = [] ∧ sends t₁ = [] ∧
        t = t₁ ++ t₂ ∧ Program.Ends (m.work i seen).run t₂ y ∧ x = m.finish y := by
  rcases ends_carryOut_request.mp h with ⟨e, he, rfl⟩ | ⟨plan, t₁, hy, t₂, rfl, ht₂⟩
  · obtain ⟨stop, hstop, rfl⟩ := fails_checks he
    obtain ⟨hchanges, hsends⟩ := silent_of_begins_checks he.begins
    exact .inl ⟨stop, hstop, hchanges, hsends, rfl⟩
  · obtain ⟨hchanges, hsends⟩ := silent_of_begins_checks hy.begins
    obtain ⟨s, i, seen, hpassed, rfl⟩ := passed_of_yields hy
    obtain ⟨y, t₃, hwork, t₄, rfl, rfl, hfinish⟩ := Program.ends_bind.mp ht₂
    rw [List.append_nil]
    exact .inr ⟨s, i, seen, t₁, t₃, y, hpassed, hchanges, hsends, rfl, hwork, hfinish.symm⟩

/-! ## What is said as an error -/

theorem complaints_admittedRun (h : g.evaluator.operations.allows op s ()) :
    complaints (admittedRun g c op s) = [] := by
  have hjudged : (g.evaluator.judgeOperation s op).2.level = .debug :=
    Evaluator.level_conclude .operation _ op s () [] h
  simp [complaints, admittedRun, authenticatedRun, authenticatedEntry, operationRun, verdictRun,
    passedEntry, Log.debug, hjudged]

theorem complaints_clearedRun {target : Target K} (h : g.evaluator.objects.allows op s target) :
    complaints (clearedRun g s op target) = [] := by
  have hjudged : (g.evaluator.judgeObject s op target).2.level = .debug :=
    Evaluator.level_conclude .object _ op s target _ h
  simp [complaints, clearedRun, objectRun, verdictRun, passedEntry, Log.debug, hjudged]

theorem complaints_toldRun {y : (m.call i).Answer} {reply : m.Reply} {d : Delivery} :
    complaints (toldRun m i seen y reply d) =
      match d with
      | .ok () => []
      | .error e => [undelivered m.change (m.key i reply) e] := by
  cases d with
  | ok _ => rfl
  | error e => rfl

/-- A pipeline that says nothing as an error before its task, and whose caller is told the failure of
the task. -/
structure Mutation.Plain (m : Mutation K ι σ β) : Prop where
  calm : ∀ i u seen, Yields (m.see i) u seen → complaints u = []
  fails : ∀ e, m.finish (.error e) = .error e

theorem plain_creation : (creation (K := K)).Plain where
  calm _ u _ h := by
    obtain ⟨rfl, -⟩ := yields_pure.mp h
    rfl
  fails _ := rfl

theorem complaints_fetchedRun {id : K.Id} {entity : K.Entity} :
    complaints (fetchedRun id entity) = [] := rfl

theorem plain_alteration : (alteration (K := K)).Plain where
  calm _ u _ h := by
    rw [yields_fetch.mp h]
    exact complaints_fetchedRun
  fails _ := rfl

theorem plain_removal : (removal (K := K)).Plain where
  calm _ u _ h := by
    rw [yields_fetch.mp h]
    exact complaints_fetchedRun
  fails _ := rfl

/-! ## Events -/

/-- A run that tells the sinks one event and writes to the log, as an error, that it could not be
delivered, if so. -/
def Heard (change : Change) (entity : K.Entity) (id : K.Id) (t : Trace (gateSignature K)) : Prop :=
  ∃ d : Delivery, sends t = [⟨.send ⟨change, entity⟩, d⟩] ∧
    complaints t = match d with
      | .ok () => []
      | .error e => [undelivered change id e]

/-- A run in which the store makes no change, the sinks hear nothing, and the caller is told a
failure. -/
def Unheard (t : Trace (gateSignature K)) (x : Except Failure β) : Prop :=
  (∀ call y, ⟨.store call, y⟩ ∈ t → call.mutates = true → ∃ e, call.Refuses y e) ∧ sends t = [] ∧
    ∃ f, x = .error f

theorem unheard_of_silent {f : Failure} (hchanges : changes t = []) (hsends : sends t = []) :
    Unheard t (.error f : Except Failure β) := by
  refine ⟨fun call y hy hm => ?_, hsends, f, rfl⟩
  have hquiet : GateCall.mutates (.store call) = false := by
    simpa using List.filter_eq_nil_iff.mp hchanges _ hy
  rw [GateCall.mutates, hm] at hquiet
  cases hquiet

/-- A request that is over has told the sinks what its task was told by the store, or nothing. -/
theorem heard_of_ends (hm : m.Plain) (h : (request (m.checks g c op input)).carryOut.Ends t x) :
    Unheard t x ∨ ∃ s i seen t₁ y reply d, Passed m g c op input s i seen t₁ ∧
      m.answer_eq i ▸ y = Except.ok reply ∧ t = t₁ ++ toldRun m i seen y reply d ∧
      x = m.finish (.ok (m.news seen reply)) ∧
      Heard m.change (m.news seen reply) (m.key i reply) t := by
  rcases ends_mutation h with ⟨stop, -, hchanges, hsends, rfl⟩ |
    ⟨s, i, seen, t₁, t₂, y, hpassed, hchanges, hsends, rfl, hwork, rfl⟩
  · exact .inl (unheard_of_silent hchanges hsends)
  · cases y with
    | error e =>
      obtain ⟨z, rfl, hz⟩ := fails_work.mp hwork
      refine .inl ⟨fun call y hy hmutates => ?_, ?_, e, hm.fails e⟩
      · rcases List.mem_append.mp hy with hy | hy
        · exact (unheard_of_silent (β := β) (f := e) hchanges hsends).1 call y hy hmutates
        · obtain ⟨rfl, rfl⟩ : call = m.call i ∧ HEq y z := by simpa using hy
          exact ⟨e, (m.refuses_iff i y e).mpr hz⟩
      · rw [sends_append, hsends]
        rfl
    | ok entity =>
      obtain ⟨z, reply, d, hz, rfl, rfl⟩ := yields_work.mp hwork
      refine .inr ⟨s, i, seen, t₁, z, reply, d, hpassed, hz, rfl, rfl, d, ?_, ?_⟩
      · rw [sends_append, hsends]
        rfl
      · obtain ⟨-, hcoarse, hfine, u, hu, rfl⟩ := hpassed
        rw [complaints_append, complaints_append, complaints_append, complaints_admittedRun hcoarse,
          hm.calm i u seen hu, complaints_clearedRun hfine, complaints_toldRun]
        rfl

/-- A request that succeeds has made its call on the store, which was not refused. -/
theorem made_of_ends (hm : m.Plain) (h : (request (m.checks g c op input)).carryOut.Ends t x)
    (hx : ∀ f, x ≠ .error f) : ∃ i seen, ∃ y : (m.call i).Answer, ∃ reply, input = .ok i ∧
      m.answer_eq i ▸ y = Except.ok reply ∧ ⟨.store (m.call i), y⟩ ∈ t ∧
      x = m.finish (.ok (m.news seen reply)) := by
  rcases heard_of_ends hm h with ⟨-, -, f, hf⟩ |
    ⟨s, i, seen, t₁, y, reply, d, hpassed, hy, rfl, hresult, -⟩
  · exact absurd hf (hx f)
  · exact ⟨i, seen, y, reply, hpassed.decoded, hy, by simp [toldRun], hresult⟩

/-- What the store refuses to a request is what its caller is told. -/
theorem refused_of_mem (hm : m.Plain) {call : StoreCall K} {y : call.Answer} {e : Failure}
    (h : (request (m.checks g c op input)).carryOut.Ends t x) (hmem : ⟨.store call, y⟩ ∈ t)
    (hmutates : call.mutates = true) (hrefuses : call.Refuses y e) : x = .error e := by
  have hquiet : ∀ u : Trace (gateSignature K), changes u = [] → ⟨.store call, y⟩ ∉ u := by
    intro u hu hmem
    have hcall : GateCall.mutates (.store call) = false := by
      simpa using List.filter_eq_nil_iff.mp hu _ hmem
    rw [GateCall.mutates, hmutates] at hcall
    cases hcall
  rcases ends_mutation h with ⟨stop, -, hchanges, -, rfl⟩ |
    ⟨s, i, seen, t₁, t₂, z, -, hchanges, -, rfl, hwork, rfl⟩
  · exact absurd hmem (hquiet t hchanges)
  have hlast : ⟨.store call, y⟩ ∈ t₂ := (List.mem_append.mp hmem).resolve_left (hquiet t₁ hchanges)
  cases z with
  | error e' =>
    obtain ⟨y', rfl, hy'⟩ := fails_work.mp hwork
    obtain ⟨rfl, hy⟩ : call = m.call i ∧ HEq y y' := by simpa using hlast
    cases hy
    rw [(m.refuses_iff i _ e).mp hrefuses] at hy'
    cases hy'
    exact hm.fails e
  | ok entity =>
    obtain ⟨y', reply, d, hy', -, rfl⟩ := yields_work.mp hwork
    obtain ⟨rfl, hy⟩ : call = m.call i ∧ HEq y y' := by simpa [toldRun] using hlast
    cases hy
    rw [(m.refuses_iff i _ e).mp hrefuses] at hy'
    cases hy'

/-- Only a task tells the sinks. -/
theorem exists_task_of_send {r : Request (gateSignature K) K.Entity β} {e : Event K.Entity}
    {d : Delivery} (hr : Program.AsksOnly Silent r)
    (h : r.carryOut.Begins (t ++ [⟨.send e, d⟩])) : ∃ t₁ t₂ work finish,
      Program.Ends r t₁ (.task work finish) ∧ t = t₁ ++ t₂ ∧ sends t₁ = [] ∧
        Program.Begins work.run (t₂ ++ [⟨.send e, d⟩]) := by
  have hspoken : ∀ u, ¬Program.Begins r (u ++ [⟨.send e, d⟩]) := by
    intro u hu
    have hsilent : Silent (.send e) := hr.of_begins hu _ (List.mem_append_right u List.mem_cons_self)
    cases hsilent.2
  rcases Request.begins_carryOut.mp h with hplanning | ⟨plan, t₁, hplan, u, heq, hu⟩
  · exact absurd hplanning (hspoken t)
  rcases List.eq_nil_or_concat u with rfl | ⟨t₂, a, rfl⟩
  · rw [List.append_nil] at heq
    exact absurd (heq ▸ hplan.begins) (hspoken t)
  · rw [List.concat_eq_append, ← List.append_assoc] at heq
    obtain ⟨rfl, ha⟩ := List.append_inj' heq rfl
    cases ha
    rw [List.concat_eq_append] at hu
    cases plan with
    | answer b => exact absurd hu (List.append_ne_nil_of_right_ne_nil t₂ (List.cons_ne_nil _ _))
    | task work finish =>
      exact ⟨t₁, t₂, work, finish, hplan, rfl, (silent_of_begins hr hplan.begins).2,
        Plan.begins_task.mp hu⟩

/-- A request has passed all its steps and the store has made the change before the sinks are told,
and it is the first that they are told. -/
theorem told_of_begins {e : Event K.Entity} {d : Delivery}
    (h : (request (m.checks g c op input)).carryOut.Begins (t ++ [⟨.send e, d⟩])) :
    sends t = [] ∧ ∃ s i seen t₁, ∃ x : (m.call i).Answer, ∃ reply,
      Passed m g c op input s i seen t₁ ∧ m.answer_eq i ▸ x = Except.ok reply ∧
      e = ⟨m.change, m.news seen reply⟩ ∧ t = t₁ ++ [⟨.store (m.call i), x⟩, ⟨.log (mutatedEntry m.method), ()⟩] := by
  obtain ⟨t₁, t₂, work, finish, hplan, rfl, hsends, hwork⟩ :=
    exists_task_of_send (asksOnly_request silent_checks) h
  rcases ends_request.mp hplan with hy | ⟨_, _, hanswer⟩
  · obtain ⟨s, i, seen, hpassed, htask⟩ := passed_of_yields hy
    obtain ⟨rfl, rfl⟩ := Plan.task.inj htask
    obtain ⟨x, reply, hx, he, rfl⟩ := told_of_begins_work hwork
    refine ⟨?_, s, i, seen, t₁, x, reply, hpassed, hx, he, rfl⟩
    rw [sends_append, hsends]
    rfl
  · cases hanswer

/-- In front of a store with a state, which only calls that change the store may change, a request
that is over has left the state as it was and told nobody, or it is all up to its one call. What it
read before was there when the call was made. -/
theorem stored_of_ends {τ : Type} {step : τ → (gateSignature K).Act → τ → Prop} {w w' : τ}
    (hm : m.Plain) (hstill : ∀ w a w', a.question.mutates = false → step w a w' → w' = w)
    (h : (request (m.checks g c op input)).carryOut.Ends t x) (ht : Leads step w t w') :
    (w' = w ∧ sends t = [] ∧ ∃ f, x = .error f) ∨
      ∃ i seen u, ∃ y : (m.call i).Answer, input = .ok i ∧ Yields (m.see i) u seen ∧
        (∀ a ∈ u, step w a w) ∧ step w ⟨.store (m.call i), y⟩ w' ∧
        ((∃ e, m.answer_eq i ▸ y = Except.error e ∧ sends t = [] ∧ x = .error e) ∨
          ∃ reply d, m.answer_eq i ▸ y = Except.ok reply ∧
            sends t = [⟨.send ⟨m.change, m.news seen reply⟩, d⟩] ∧
            x = m.finish (.ok (m.news seen reply))) := by
  have hquiet : ∀ {u w w'}, changes u = [] → Leads step w u w' → w' = w ∧ ∀ a ∈ u, step w a w := by
    intro u w w' hu hw
    refine hw.still fun a ha w w' => hstill w a w' ?_
    simpa using List.filter_eq_nil_iff.mp hu a ha
  rcases ends_mutation h with ⟨stop, -, hchanges, hsends, rfl⟩ |
    ⟨s, i, seen, t₁, t₂, y, hpassed, hchanges, hsends, rfl, hwork, rfl⟩
  · exact .inl ⟨(hquiet hchanges ht).1, hsends, stop.failure, rfl⟩
  obtain ⟨w₁, ht₁, ht₂⟩ := leads_append.mp ht
  obtain ⟨rfl, hread⟩ := hquiet hchanges ht₁
  obtain ⟨hin, -, -, u, hu, rfl⟩ := hpassed
  refine .inr ⟨i, seen, u, ?_⟩
  have hseen : ∀ a ∈ u, step w₁ a w₁ := fun a ha => hread a (by simp [ha])
  rw [sends_append, hsends, List.nil_append]
  cases y with
  | error e =>
    obtain ⟨z, rfl, hz⟩ := fails_work.mp hwork
    obtain ⟨w₂, hcall, hrest⟩ := leads_cons.mp ht₂
    rw [leads_nil.mp hrest]
    exact ⟨z, hin, hu, hseen, hcall, .inl ⟨e, hz, rfl, hm.fails e⟩⟩
  | ok entity =>
    obtain ⟨z, reply, d, hz, rfl, rfl⟩ := yields_work.mp hwork
    obtain ⟨w₂, hcall, hrest⟩ := leads_cons.mp ht₂
    -- After its call the task only writes to the log and tells the sinks.
    obtain ⟨rfl, -⟩ := hquiet (by rfl) hrest
    exact ⟨z, hin, hu, hseen, hcall, .inr ⟨reply, d, hz, rfl, rfl⟩⟩

end Requests

/-! ## While requests are planned -/

section Planning

variable [PipelineSet Op] {g : Gate Op K} {c : Caller} {t : Trace (gateSignature K)}

theorem silent_create {input : Except Failure K.Draft} : (g.create c input).AsksOnly Silent := by
  rw [create_eq]
  exact asksOnly_request silent_checks

theorem silent_update {input : Except Failure K.Patch} : (g.update c input).AsksOnly Silent := by
  rw [update_eq]
  exact asksOnly_request silent_checks

theorem silent_delete {input : Except Failure K.Id} : (g.delete c input).AsksOnly Silent := by
  rw [delete_eq]
  exact asksOnly_request silent_checks

theorem silent_get {input : Except Failure K.Id} : (g.get c input).AsksOnly Silent :=
  silent_steps.get fun _ => ⟨rfl, rfl⟩

theorem silent_list {input : Except Failure K.Filter} : (g.list c input).AsksOnly Silent :=
  silent_steps.list (fun _ => ⟨rfl, rfl⟩) fun _ => ⟨rfl, rfl⟩

theorem silent_authorize {op : Op} : (g.authorize c op).AsksOnly Silent := silent_steps.authorize

end Planning

/-- A request whose plan is an answer is over when it is planned. -/
theorem silent_of_answers {r : Request (gateSignature K) K.Entity (Except Failure β)}
    {t : Trace (gateSignature K)} {x : Except Failure β} (hr : Program.AsksOnly Silent r)
    (ha : ∀ t plan, Program.Ends r t plan → ∃ b, plan = .answer b) (h : r.carryOut.Ends t x) :
    changes t = [] ∧ sends t = [] := by
  obtain ⟨plan, t₁, hplan, t₂, rfl, ht₂⟩ := Program.ends_bind.mp h
  obtain ⟨b, rfl⟩ := ha t₁ plan hplan
  obtain ⟨rfl, -⟩ := ht₂
  rw [List.append_nil]
  exact silent_of_begins hr hplan.begins

/-! ## Whatever the sinks answer -/

/-- What a request meets besides the sinks: a signal, given by what each look at it finds, a verifier,
and a store, which answers each call as the state says that it is in and goes over to another. -/
structure Backdrop (K : Resource) (τ : Type) where
  signal : Nat → Bool
  verify : Option String → Except AuthError (Option Subject)
  perform : τ → (call : StoreCall K) → call.Answer × τ

/-- A question in front of a backdrop. The number of looks at the signal is counted, the store has
its state, and the sinks answer as they like. -/
def Backdrop.step (b : Backdrop K τ) (w : Nat × τ) : (gateSignature K).Act → Nat × τ → Prop
  | ⟨.poll, x⟩, w' => x = b.signal w.1 ∧ w' = (w.1 + 1, w.2)
  | ⟨.verify c, x⟩, w' => x = b.verify c ∧ w' = w
  | ⟨.store call, x⟩, w' => x = (b.perform w.2 call).1 ∧ w' = (w.1, (b.perform w.2 call).2)
  | ⟨.consult _ _, _⟩, w' => w' = w
  | ⟨.send _, _⟩, w' => w' = w
  | ⟨.log _, _⟩, w' => w' = w

/-- A pipeline that goes its way whatever the sinks answer. -/
structure Blind (b : Backdrop K τ)
    (pipeline : Except Failure ι → Request (gateSignature K) K.Entity (Except Failure β)) :
    Prop where
  /-- Two runs of one request that start in front of one store end alike and leave the store alike. -/
  alike : ∀ (input : Except Failure ι) (w w₁ w₂ : Nat × τ) (t₁ t₂ : Trace (gateSignature K))
    (x₁ x₂ : Except Failure β),
    (pipeline input).carryOut.Ends t₁ x₁ → Leads b.step w t₁ w₁ →
    (pipeline input).carryOut.Ends t₂ x₂ → Leads b.step w t₂ w₂ → x₁ = x₂ ∧ w₁.2 = w₂.2
  /-- However the sinks take events, there is a run in which they do. -/
  answered : ∀ (input : Except Failure ι) (w : Nat × τ) (deliver : Event K.Entity → Delivery),
    ∃ t x w', (pipeline input).carryOut.Ends t x ∧ Leads b.step w t w' ∧
      ∀ e d, ⟨.send e, d⟩ ∈ t → d = deliver e

section Blindness

variable {b : Backdrop K τ} {w w' w₁ w₂ : Nat × τ} {q : GateCall K}

/-- All questions but those to the sinks have one answer. -/
theorem Backdrop.eq_of_step {x y : q.Answer} (hq : Silent q) (hx : b.step w ⟨q, x⟩ w₁)
    (hy : b.step w ⟨q, y⟩ w₂) : x = y ∧ w₁ = w₂ := by
  cases q with
  | poll | verify _ | store _ =>
    obtain ⟨rfl, rfl⟩ := hx
    obtain ⟨rfl, rfl⟩ := hy
    exact ⟨rfl, rfl⟩
  | consult _ _ | log _ =>
    obtain rfl : w₁ = w := hx
    exact ⟨rfl, Eq.symm hy⟩
  | send _ => cases hq.2

/-- The answers in front of a backdrop, with sinks that take events in a given way. -/
def Backdrop.answer (b : Backdrop K τ) (deliver : Event K.Entity → Delivery) (w : Nat × τ) :
    (q : GateCall K) → q.Answer × (Nat × τ)
  | .poll => (b.signal w.1, w.1 + 1, w.2)
  | .verify c => (b.verify c, w)
  | .store call => ((b.perform w.2 call).1, w.1, (b.perform w.2 call).2)
  | .consult _ _ => ((), w)
  | .send e => (deliver e, w)
  | .log _ => ((), w)

theorem Backdrop.step_of_answer {deliver : Event K.Entity → Delivery}
    {a : (gateSignature K).Act} (h : b.answer deliver w a.question = (a.answer, w')) :
    b.step w a w' ∧ ∀ e d, ⟨.send e, d⟩ = a → d = deliver e := by
  obtain ⟨q, x⟩ := a
  cases q <;> cases h
  case send e =>
    refine ⟨rfl, fun e' d hsend => ?_⟩
    cases hsend
    rfl
  all_goals simp [step]

/-- What a task ends with and leaves behind is up to the store. -/
theorem outcome_of_work {m : Mutation K ι σ β} {i : ι} {seen : σ} {t : Trace (gateSignature K)}
    {y : Except Failure K.Entity} (h : Program.Ends (m.work i seen).run t y)
    (hw : Leads b.step w t w') :
    y = (m.answer_eq i ▸ (b.perform w.2 (m.call i)).1 : Except Failure m.Reply).map (m.news seen) ∧
      w'.2 = (b.perform w.2 (m.call i)).2 := by
  obtain ⟨x, ⟨rfl, rfl⟩, rfl⟩ := answered_of_work (fun _ _ _ h => h) (fun _ _ _ _ h => h) h hw
  exact ⟨rfl, rfl⟩

theorem blind_of_checks [OperationSet Op] (b : Backdrop K τ) (m : Mutation K ι σ β) (g : Gate Op K)
    (c : Caller) (op : Op) : Blind b fun input => request (m.checks g c op input) where
  alike input w w₁ w₂ t₁ t₂ x₁ x₂ h₁ hw₁ h₂ hw₂ := by
    obtain ⟨plan, u₁, hplan, v₁, rfl, hv₁⟩ := Program.ends_bind.mp h₁
    obtain ⟨plan', u₂, hplan', v₂, rfl, hv₂⟩ := Program.ends_bind.mp h₂
    obtain ⟨w₃, hu₁, hwv₁⟩ := leads_append.mp hw₁
    obtain ⟨w₄, hu₂, hwv₂⟩ := leads_append.mp hw₂
    -- Until the plan is made the sinks are not asked anything, so the two runs are one.
    obtain ⟨rfl, rfl, rfl⟩ := Program.eq_of_leads (fun w q x y w₁ w₂ => Backdrop.eq_of_step)
      (asksOnly_request silent_checks) hplan hu₁ hplan' hu₂
    cases plan with
    | answer y =>
      obtain ⟨rfl, rfl⟩ := hv₁
      obtain ⟨rfl, rfl⟩ := hv₂
      rw [leads_nil.mp hwv₁, leads_nil.mp hwv₂]
      exact ⟨rfl, rfl⟩
    | task work finish =>
      obtain ⟨i, seen, u, -, -, rfl, rfl⟩ := task_of_ends hplan
      obtain ⟨y₁, _, hwork₁, _, rfl, rfl, rfl⟩ := Program.ends_bind.mp hv₁
      obtain ⟨y₂, _, hwork₂, _, rfl, rfl, rfl⟩ := Program.ends_bind.mp hv₂
      rw [List.append_nil] at hwv₁ hwv₂
      obtain ⟨rfl, hs₁⟩ := outcome_of_work hwork₁ hwv₁
      obtain ⟨rfl, hs₂⟩ := outcome_of_work hwork₂ hwv₂
      rw [hs₁, hs₂]
      exact ⟨rfl, rfl⟩
  answered input w deliver := by
    let r := (request (m.checks g c op input)).carryOut
    have hlead := r.leads_walk (b.answer deliver) w
    refine ⟨_, _, _, r.ends_walk (b.answer deliver) w,
      hlead.mono fun _ _ _ h => (Backdrop.step_of_answer h).1, fun e d hsend => ?_⟩
    obtain ⟨_, _, h⟩ := hlead.exists_step hsend
    exact (Backdrop.step_of_answer h).2 e d rfl

end Blindness

/-! ## The headline -/

/-- **Sinks do not matter, and they hear the truth.** A request to create, change or delete an entity
ends with the same answer and leaves the store in the same state whatever the sinks answer. They hear
of it exactly if the store has made the change, by one event: with the entity that the store has
returned, which is also the answer to the caller, or with the entity that was read, checked and then
deleted. If the event cannot be delivered, one entry of the log says so, with the operation, the
identifier of the entity and the error. -/
theorem sinks_unnoticed [PipelineSet Op] (b : Backdrop K τ) (g : Gate Op K) (c : Caller) :
    (Blind b (g.create c) ∧ Blind b (g.update c) ∧ Blind b (g.delete c)) ∧
    (∀ input t x, (g.create c input).carryOut.Ends t x → Unheard t x ∨ ∃ draft entity,
      input = .ok draft ∧ ⟨.store (.create draft), .ok entity⟩ ∈ t ∧ x = .ok entity ∧
      Heard .created entity (K.idOf entity) t) ∧
    (∀ input t x, (g.update c input).carryOut.Ends t x → Unheard t x ∨ ∃ patch entity,
      input = .ok patch ∧ ⟨.store (.update patch), .ok entity⟩ ∈ t ∧ x = .ok entity ∧
      Heard .updated entity (K.patched patch) t) ∧
    (∀ input t x, (g.delete c input).carryOut.Ends t x → Unheard t x ∨ ∃ id s entity before after,
      input = .ok id ∧ t = before ++ ⟨.store (.delete id), .ok ()⟩ :: after ∧
      Cleared g c PipelineSet.delete s (.entity entity) [⟨.store (.get id), .ok entity⟩] before ∧
      x = .ok () ∧ Heard .deleted entity id t) := by
  refine ⟨⟨?_, ?_, ?_⟩, fun input t x h => ?_, fun input t x h => ?_, fun input t x h => ?_⟩
  · rw [funext (create_eq g c)]
    exact blind_of_checks b creation g c _
  · rw [funext (update_eq g c)]
    exact blind_of_checks b alteration g c _
  · rw [funext (delete_eq g c)]
    exact blind_of_checks b removal g c _
  · rw [create_eq] at h
    refine (heard_of_ends plain_creation h).imp_right ?_
    intro ⟨s, draft, seen, t₁, y, reply, d, hpassed, hy, ht, hx, hheard⟩
    have hy' : y = Except.ok reply := hy
    subst hy'
    exact ⟨draft, reply, hpassed.decoded, by simp [ht, toldRun, creation], hx, hheard⟩
  · rw [update_eq] at h
    refine (heard_of_ends plain_alteration h).imp_right ?_
    intro ⟨s, patch, seen, t₁, y, reply, d, hpassed, hy, ht, hx, hheard⟩
    have hy' : y = Except.ok reply := hy
    subst hy'
    exact ⟨patch, reply, hpassed.decoded, by simp [ht, toldRun, alteration], hx, hheard⟩
  · rw [delete_eq] at h
    refine (heard_of_ends plain_removal h).imp_right ?_
    intro ⟨s, id, seen, t₁, y, reply, d, hpassed, hy, ht, hx, hheard⟩
    have hy' : y = Except.ok reply := hy
    subst hy'
    obtain ⟨hin, hcoarse, hfine, u, hu, rfl⟩ := hpassed
    obtain rfl := yields_fetch.mp hu
    exact ⟨id, s, seen, _, _, hin, ht, cleared_of_runs g c hcoarse hfine get_sublist_fetchedRun, hx,
      hheard⟩

/-- A backdrop with a store that knows one company, for a user whom nobody cancels. -/
def lenient : Backdrop Company.resource Unit where
  signal _ := false
  verify _ := .ok (some (Subject.ofId "u1"))
  perform _ call := (obliging (default : Company) (fun _ => .ok none) (.store call), ())

/-- A user creates a company, once with sinks that take the event and once with sinks that are out of
reach: the answer is the same, and the log has one more entry. -/
theorem sinks_unnoticed_unreachable : ∃ t u x,
    (forUsers.create ⟨some "token"⟩ (.ok plainDraft)).carryOut.Ends t x ∧
    (forUsers.create ⟨some "token"⟩ (.ok plainDraft)).carryOut.Ends u x ∧
    complaints t = [] ∧
    complaints u = [undelivered (K := Company.resource) .created (default : Company).id
      (.delivery "unreachable")] := by
  obtain ⟨⟨hblind, -, -⟩, hcreate, -, -⟩ := sinks_unnoticed lenient forUsers ⟨some "token"⟩
  let r := (forUsers.create ⟨some "token"⟩ (.ok plainDraft)).carryOut
  let taken := lenient.answer fun _ => .ok ()
  let refused := lenient.answer fun _ => .error (.delivery "unreachable")
  have htaken := r.ends_walk taken (0, ())
  have hrefused := r.ends_walk refused (0, ())
  have hlead : ∀ deliver, Leads lenient.step (0, ()) (r.walk (lenient.answer deliver) (0, ())).1
      (r.walk (lenient.answer deliver) (0, ())).2.2 := fun deliver =>
    (r.leads_walk (lenient.answer deliver) (0, ())).mono fun _ _ _ h => (Backdrop.step_of_answer h).1
  obtain ⟨hsame, -⟩ := hblind.alike _ _ _ _ _ _ _ _ htaken (hlead _) hrefused (hlead _)
  rw [hsame] at htaken
  refine ⟨(r.walk taken (0, ())).1, _, _, htaken, hrefused, rfl, ?_⟩
  rcases hcreate _ _ _ hrefused with ⟨-, hsilent, -⟩ | ⟨_, _, -, -, hx, d, hsends, hcomplaints⟩
  · exact absurd hsilent (List.cons_ne_nil _ _)
  · cases hx
    cases hsends
    exact hcomplaints

end Gate

end Gatehouse
