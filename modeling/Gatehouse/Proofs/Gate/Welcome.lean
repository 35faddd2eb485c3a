import Gatehouse.Proofs.Gate.News

/-!
# Welcome callers

A caller whom nobody cancels, whose credential verifies and whom both checks allow what is asked for
does not notice the gate: what the request ends with is what the store answers, and what becomes of
the store is what its calls do to it. If there is no such entity, this is said before the second
check, which needs the entity.

What a part of a request does in front of surroundings with a state is said by `Settles`: the part
can end in one way only, and the state is the same as before.
-/

namespace Gatehouse

/-- In front of this state the program ends with nothing but this and leaves the state as it is. -/
def Program.Settles {S : Signature} {σ α : Type} (step : σ → S.Act → σ → Prop) (s : σ)
    (p : Program S α) (a : α) : Prop :=
  ∀ t b s', p.Ends t b → Leads step s t s' → b = a ∧ s' = s

namespace Attempt

variable {S : Signature} {σ α β : Type} {step : σ → S.Act → σ → Prop} {s s' : σ}
  {x : Attempt S α} {f : α → Attempt S β} {a : α}

/-- In front of this state the attempt ends with nothing but this and leaves the state as it is. -/
def Settles (step : σ → S.Act → σ → Prop) (s : σ) (x : Attempt S α) (y : Except Failure α) : Prop :=
  Program.Settles step s x.run y

theorem settles_pure : Settles step s (pure a : Attempt S α) (.ok a) := by
  intro t b s' h hs
  obtain ⟨rfl, rfl⟩ := h
  exact ⟨rfl, leads_nil.mp hs⟩

/-- What comes after an attempt that settles starts in the same state. -/
theorem Settles.bind {y : Except Failure β} (hx : Settles step s x (.ok a))
    (hf : Settles step s (f a) y) : Settles step s (x >>= f) y := by
  intro t b s' h hs
  rw [run_bind] at h
  obtain ⟨z, t₁, hz, t₂, rfl, hrest⟩ := Program.ends_bind.mp h
  obtain ⟨s₁, hs₁, hs₂⟩ := leads_append.mp hs
  obtain ⟨rfl, rfl⟩ := hx t₁ z s₁ hz hs₁
  exact hf t₂ b s' hrest hs₂

/-- Nothing comes after an attempt that settles for a failure. -/
theorem Settles.bind_error {e : Failure} (hx : Settles step s x (.error e)) :
    Settles step s (x >>= f) (.error e) := by
  intro t b s' h hs
  rw [run_bind] at h
  obtain ⟨z, t₁, hz, t₂, rfl, hrest⟩ := Program.ends_bind.mp h
  obtain ⟨s₁, hs₁, hs₂⟩ := leads_append.mp hs
  obtain ⟨rfl, rfl⟩ := hx t₁ z s₁ hz hs₁
  obtain ⟨rfl, rfl⟩ := hrest
  exact ⟨rfl, leads_nil.mp hs₂⟩

end Attempt

namespace Gate

open Attempt

variable {Op : Type} {K : Resource} {α β τ : Type}

/-- Surroundings in which no request is found cancelled, with a verifier that gives these answers, and
in which nothing but calls on the store changes the state. -/
structure Hospitable (step : τ → (gateSignature K).Act → τ → Prop)
    (verify : Option String → Except AuthError (Option Subject)) : Prop where
  wanted : ∀ w b w', step w ⟨.poll, b⟩ w' → b = false ∧ w' = w
  verified : ∀ w c x w', step w ⟨.verify c, x⟩ w' → x = verify c ∧ w' = w
  consulted : ∀ w l marks w', step w ⟨.consult l marks, ()⟩ w' → w' = w
  told : ∀ w e d w', step w ⟨.send e, d⟩ w' → w' = w
  logged : ∀ w entry w', step w ⟨.log entry, ()⟩ w' → w' = w

section Steps

variable {step : τ → (gateSignature K).Act → τ → Prop}
  {verify : Option String → Except AuthError (Option Subject)} {w w' : τ}

theorem settles_asking {q : GateCall K} {x : q.Answer}
    (h : ∀ y w', step w ⟨q, y⟩ w' → y = x ∧ w' = w) : Settles step w (asking q) (.ok x) := by
  intro t b w' hend hw
  obtain ⟨y, u, rfl, rfl, rfl⟩ := hend
  obtain ⟨w₁, hy, hrest⟩ := leads_cons.mp hw
  obtain ⟨rfl, rfl⟩ := h y w₁ hy
  exact ⟨rfl, leads_nil.mp hrest⟩

theorem settles_storing {call : StoreCall K} {x : call.Answer}
    {hc : call.Answer = Except Failure α} (h : ∀ y w', step w ⟨.store call, y⟩ w' → y = x ∧ w' = w) :
    Settles step w (storing call hc) (hc ▸ x) := by
  intro t b w' hend hw
  obtain ⟨y, u, rfl, rfl, rfl⟩ := hend
  obtain ⟨w₁, hy, hrest⟩ := leads_cons.mp hw
  obtain ⟨rfl, rfl⟩ := h y w₁ hy
  exact ⟨rfl, leads_nil.mp hrest⟩

theorem settles_given {x : Except Failure α} : Settles step w (given x) x := by
  intro t b w' hend hw
  obtain ⟨rfl, rfl⟩ := hend
  exact ⟨rfl, leads_nil.mp hw⟩

variable (hstep : Hospitable step verify)
include hstep

theorem settles_say {entry : Log.Entry} : Settles step w (say entry) (.ok ()) :=
  settles_asking fun _ w' h => ⟨rfl, hstep.logged w entry w' h⟩

theorem settles_checkpoint : Settles step w checkpoint (.ok ()) := by
  have hpoll : Settles step w (asking .poll) (.ok false) := settles_asking (hstep.wanted w)
  exact hpoll.bind settles_pure

theorem settles_authenticate {c : Caller} {s : Option Subject} (hv : verify c.token = .ok s) :
    Settles step w (authenticate c) (.ok s) := by
  refine (settles_checkpoint hstep).bind ?_
  have hverify : Settles step w (asking (.verify c.token)) (.ok (.ok s)) := by
    rw [← hv]
    exact settles_asking (hstep.verified w c.token)
  exact hverify.bind ((settles_say hstep).bind settles_pure)

theorem settles_judged {l : PolicyLevel} {marks : List String}
    {verdict : Except PolicyError Unit × Log.Entry} {passed : Log.Entry}
    (hv : verdict.1 = .ok ()) : Settles step w (judged l marks verdict passed) (.ok ()) := by
  refine (settles_checkpoint hstep).bind ?_
  have hconsult : Settles step w (asking (.consult l marks)) (.ok ()) :=
    settles_asking fun _ w' h => ⟨rfl, hstep.consulted w l marks w' h⟩
  refine hconsult.bind ((settles_say hstep).bind ?_)
  have hgiven : Settles step w (given (verdict.1.mapError .ofPolicy)) (.ok ()) := by
    rw [hv]
    exact settles_given
  exact hgiven.bind (settles_say hstep)

section Levels

variable [OperationSet Op] {g : Gate Op K} {s : Option Subject} {op : Op}

theorem settles_authorizeOperation (h : g.evaluator.operations.allows op s ()) :
    Settles step w (g.authorizeOperation s op) (.ok ()) := by
  rw [authorizeOperation_eq]
  exact settles_judged hstep (by rw [g.evaluator.judgeOperation_fst s op, if_pos h])

theorem settles_authorizeObject {target : Target K} (h : g.evaluator.objects.allows op s target) :
    Settles step w (g.authorizeObject s op target) (.ok ()) := by
  rw [authorizeObject_eq]
  exact settles_judged hstep (by rw [g.evaluator.judgeObject_fst s op target, if_pos h])

theorem settles_admitting {c : Caller} {rest : Option Subject → Attempt (gateSignature K) α}
    {x : Except Failure α} (hv : verify c.token = .ok s)
    (h : g.evaluator.operations.allows op s ()) (hrest : Settles step w (rest s) x) :
    Settles step w (g.admitting c op rest) x :=
  (settles_authenticate hstep hv).bind ((settles_authorizeOperation hstep h).bind hrest)

theorem settles_clearing {target : Target K} {a : α} (h : g.evaluator.objects.allows op s target) :
    Settles step w (g.clearing s op target a) (.ok a) :=
  (settles_authorizeObject hstep h).bind ((settles_checkpoint hstep).bind settles_pure)

end Levels

theorem settles_fetch {id : K.Id} {x : Except Failure K.Entity}
    (h : ∀ y w', step w ⟨.store (.get id), y⟩ w' → y = x ∧ w' = w) :
    Settles step w (fetch id) x := by
  refine (settles_checkpoint hstep).bind ?_
  have hget : Settles step w (storing (.get id) rfl) x := settles_storing h
  cases x with
  | ok entity => exact hget.bind ((settles_say hstep).bind settles_pure)
  | error e => exact hget.bind_error

end Steps

/-! ## Requests -/

section Requests

variable {step : τ → (gateSignature K).Act → τ → Prop} {w w' : τ}
  {front : Attempt (gateSignature K) (Plan (gateSignature K) K.Entity (Except Failure β))}
  {t : Trace (gateSignature K)} {x y : Except Failure β}

theorem eq_of_settles_answer (hf : Settles step w front (.ok (.answer x)))
    (h : (request front).carryOut.Ends t y) (ht : Leads step w t w') : y = x ∧ w' = w := by
  rcases ends_carryOut_request.mp h with ⟨e, he, -⟩ | ⟨plan, t₁, hplan, t₂, rfl, ht₂⟩
  · cases (hf t (.error e) w' he ht).1
  · obtain ⟨w₁, hw₁, hw₂⟩ := leads_append.mp ht
    obtain ⟨heq, rfl⟩ := hf t₁ (.ok plan) w₁ hplan hw₁
    cases heq
    obtain ⟨rfl, rfl⟩ := ht₂
    exact ⟨rfl, leads_nil.mp hw₂⟩

theorem eq_of_settles_error {e : Failure} (hf : Settles step w front (.error e))
    (h : (request front).carryOut.Ends t y) (ht : Leads step w t w') : y = .error e ∧ w' = w := by
  rcases ends_carryOut_request.mp h with ⟨e', he, rfl⟩ | ⟨plan, t₁, hplan, t₂, rfl, ht₂⟩
  · obtain ⟨heq, rfl⟩ := hf t (.error e') w' he ht
    cases heq
    exact ⟨rfl, rfl⟩
  · obtain ⟨w₁, hw₁, -⟩ := leads_append.mp ht
    cases (hf t₁ (.ok plan) w₁ hplan hw₁).1

theorem ends_of_settles_task {work : Attempt (gateSignature K) K.Entity}
    {finish : Except Failure K.Entity → Except Failure β}
    (hf : Settles step w front (.ok (.task work finish)))
    (h : (request front).carryOut.Ends t y) (ht : Leads step w t w') :
    ∃ u z, Program.Ends work.run u z ∧ Leads step w u w' ∧ y = finish z := by
  rcases ends_carryOut_request.mp h with ⟨e, he, -⟩ | ⟨plan, t₁, hplan, t₂, rfl, ht₂⟩
  · cases (hf t (.error e) w' he ht).1
  · obtain ⟨w₁, hw₁, hw₂⟩ := leads_append.mp ht
    obtain ⟨heq, rfl⟩ := hf t₁ (.ok plan) w₁ hplan hw₁
    cases heq
    obtain ⟨z, t₃, hwork, t₄, rfl, rfl, rfl⟩ := Program.ends_bind.mp ht₂
    rw [List.append_nil] at hw₂
    exact ⟨t₃, z, hwork, hw₂, rfl⟩

end Requests

section Pipelines

variable [PipelineSet Op] {g : Gate Op K} {c : Caller} {s : Option Subject}
  {step : τ → (gateSignature K).Act → τ → Prop}
  {verify : Option String → Except AuthError (Option Subject)} {w w' : τ}
  {t : Trace (gateSignature K)}
  (hstep : Hospitable step verify) (hv : verify c.token = .ok s)
include hstep hv

theorem authorize_welcome {op : Op} {x : Except Failure (Option Subject)}
    (hop : g.evaluator.operations.allows op s ()) (h : (g.authorize c op).carryOut.Ends t x)
    (ht : Leads step w t w') : x = .ok s ∧ w' = w :=
  eq_of_settles_answer (settles_admitting hstep hv hop settles_pure) h ht

/-- What is read is what the store answers. -/
theorem get_welcome {id : K.Id} {x y : Except Failure K.Entity}
    (hop : g.evaluator.operations.allows PipelineSet.detail s ())
    (hget : ∀ z w', step w ⟨.store (.get id), z⟩ w' → z = y ∧ w' = w)
    (hobj : ∀ entity, y = .ok entity →
      g.evaluator.objects.allows PipelineSet.detail s (.entity entity))
    (h : (g.get c (.ok id)).carryOut.Ends t x) (ht : Leads step w t w') : x = y ∧ w' = w := by
  cases y with
  | ok entity =>
    refine eq_of_settles_answer (settles_admitting hstep hv hop (settles_given.bind ?_)) h ht
    refine (settles_fetch hstep hget).bind ?_
    refine (settles_authorizeObject hstep (hobj entity rfl)).bind ?_
    exact (settles_say hstep).bind settles_pure
  | error e =>
    refine eq_of_settles_error (settles_admitting hstep hv hop (settles_given.bind ?_)) h ht
    exact (settles_fetch hstep hget).bind_error

/-- What is listed is what the store answers, and counts. -/
theorem list_welcome {filter : K.Filter} {x : Except Failure (Listing K.Entity)}
    {y : Except Failure (List K.Entity)} {z : Except Failure Nat}
    (hop : g.evaluator.operations.allows PipelineSet.list s ())
    (hobj : g.evaluator.objects.allows PipelineSet.list s (.filter filter))
    (hlist : ∀ z w', step w ⟨.store (.list filter), z⟩ w' → z = y ∧ w' = w)
    (hcount : ∀ y w', step w ⟨.store (.count filter), y⟩ w' → y = z ∧ w' = w)
    (h : (g.list c (.ok filter)).carryOut.Ends t x) (ht : Leads step w t w') :
    x = y.bind (fun items => z.map fun total => ⟨items, total⟩) ∧ w' = w := by
  have hitems : Settles step w (storing (.list filter) (answer_list filter)) y :=
    settles_storing hlist
  have htotal : Settles step w (storing (.count filter) (answer_count filter)) z :=
    settles_storing hcount
  have hpassed : ∀ {plan}, Settles step w (reading filter) plan → Settles step w
      (g.admitting c PipelineSet.list fun s => do
        let filter ← given (.ok filter)
        g.authorizeObject s PipelineSet.list (.filter filter)
        reading filter) plan := fun hread =>
    settles_admitting hstep hv hop (settles_given.bind ((settles_authorizeObject hstep hobj).bind
      hread))
  rw [list_eq] at h
  cases y with
  | error e =>
    exact eq_of_settles_error (hpassed ((settles_checkpoint hstep).bind hitems.bind_error)) h ht
  | ok items =>
    cases z with
    | error e =>
      refine eq_of_settles_error (hpassed ((settles_checkpoint hstep).bind ?_)) h ht
      exact hitems.bind htotal.bind_error
    | ok total =>
      refine eq_of_settles_answer (hpassed ((settles_checkpoint hstep).bind ?_)) h ht
      exact hitems.bind (htotal.bind ((settles_say hstep).bind settles_pure))

section Mutations

variable {ι σ : Type} {m : Mutation K ι σ β} {op : Op} {i : ι} {x : Except Failure β}

/-- What there is to see is seen first: if this fails nothing is changed, and if not the change is up
to the store. -/
theorem change_welcome {y : Except Failure σ} (hop : g.evaluator.operations.allows op s ())
    (hsee : Settles step w (m.see i) y)
    (hobj : ∀ seen, y = .ok seen → g.evaluator.objects.allows op s (m.target i seen))
    (h : (request (m.checks g c op (.ok i))).carryOut.Ends t x) (ht : Leads step w t w') :
    (∃ e, y = .error e ∧ x = .error e ∧ w' = w) ∨
      ∃ seen, y = .ok seen ∧ ∃ z : (m.call i).Answer, step w ⟨.store (m.call i), z⟩ w' ∧
        x = m.finish ((m.answer_eq i ▸ z : Except Failure m.Reply).map (m.news seen)) := by
  cases y with
  | error e =>
    have hchecks : Settles step w (m.checks g c op (.ok i)) (.error e) :=
      settles_admitting hstep hv hop (settles_given.bind hsee.bind_error)
    exact .inl ⟨e, rfl, eq_of_settles_error hchecks h ht⟩
  | ok seen =>
    have hchecks : Settles step w (m.checks g c op (.ok i))
        (.ok (.task (m.work i seen) m.finish)) := by
      refine settles_admitting hstep hv hop (settles_given.bind (hsee.bind ?_))
      exact settles_clearing hstep (hobj seen rfl)
    obtain ⟨u, z, hwork, hu, rfl⟩ := ends_of_settles_task hchecks h ht
    obtain ⟨reply, hcall, rfl⟩ := answered_of_work hstep.logged hstep.told hwork hu
    exact .inr ⟨seen, rfl, reply, hcall, rfl⟩

end Mutations

/-- What is created is what the store answers. -/
theorem create_welcome {draft : K.Draft} {x : Except Failure K.Entity}
    (hop : g.evaluator.operations.allows PipelineSet.create s ())
    (hobj : g.evaluator.objects.allows PipelineSet.create s (.draft draft))
    (h : (g.create c (.ok draft)).carryOut.Ends t x) (ht : Leads step w t w') :
    step w ⟨.store (.create draft), x⟩ w' := by
  rw [create_eq] at h
  rcases change_welcome hstep hv hop settles_pure (fun _ _ => hobj) h ht with
    ⟨e, he, -⟩ | ⟨_, -, z, hz, rfl⟩
  · cases he
  · cases z <;> exact hz

/-- What is changed is what the store answers, if there is such an entity. -/
theorem update_welcome {patch : K.Patch} {x y : Except Failure K.Entity}
    (hop : g.evaluator.operations.allows PipelineSet.update s ())
    (hget : ∀ z w', step w ⟨.store (.get (K.patched patch)), z⟩ w' → z = y ∧ w' = w)
    (hobj : ∀ entity, y = .ok entity →
      g.evaluator.objects.allows PipelineSet.update s (.entity entity))
    (h : (g.update c (.ok patch)).carryOut.Ends t x) (ht : Leads step w t w') :
    (∃ e, y = .error e ∧ x = .error e ∧ w' = w) ∨
      ∃ entity, y = .ok entity ∧ step w ⟨.store (.update patch), x⟩ w' := by
  rw [update_eq] at h
  refine (change_welcome hstep hv hop (settles_fetch hstep hget) hobj h ht).imp_right ?_
  intro ⟨entity, hy, z, hz, hx⟩
  rw [hx]
  refine ⟨entity, hy, ?_⟩
  cases z <;> exact hz

/-- What is deleted is deleted as the store answers, if there is such an entity. -/
theorem delete_welcome {id : K.Id} {x : Except Failure Unit} {y : Except Failure K.Entity}
    (hop : g.evaluator.operations.allows PipelineSet.delete s ())
    (hget : ∀ z w', step w ⟨.store (.get id), z⟩ w' → z = y ∧ w' = w)
    (hobj : ∀ entity, y = .ok entity →
      g.evaluator.objects.allows PipelineSet.delete s (.entity entity))
    (h : (g.delete c (.ok id)).carryOut.Ends t x) (ht : Leads step w t w') :
    (∃ e, y = .error e ∧ x = .error e ∧ w' = w) ∨
      ∃ entity, y = .ok entity ∧ step w ⟨.store (.delete id), x⟩ w' := by
  rw [delete_eq] at h
  refine (change_welcome hstep hv hop (settles_fetch hstep hget) hobj h ht).imp_right ?_
  intro ⟨entity, hy, z, hz, hx⟩
  rw [hx]
  refine ⟨entity, hy, ?_⟩
  cases z <;> exact hz

end Pipelines

end Gate

end Gatehouse
