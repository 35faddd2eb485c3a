import Gatehouse.Http.Endpoint
import Gatehouse.Proofs.Company.Backing

/-!
# What a client sees

A client sees the response that a run of the whole system ends with. Every action on companies goes
through the front of a pipeline with the credential of the request, unless the identifier in its path
is no text; so a request that the front refuses is answered by the refusal, whatever else it holds.

The vocabulary of the statements is `Answers`, that some run which nobody cancels ends in a response,
and `Refused`, that the credential or the coarse check settle the request.
-/

namespace Gatehouse.Http

/-! ## What a request asks for -/

/-- What a request asks for by its path and its method. -/
def Request.action? (r : Request) : Option Action :=
  (Route.of? r.target.path).bind fun route => route.action? r.method

namespace Action

/-- The operation that the gate checks for an action. -/
def operation? : Action → Option Operation
  | health => none
  | create => some .create
  | list | events => some .list
  | get _ => some .detail
  | update _ => some .update
  | delete _ => some .delete

/-- Whether the identifier in the path of an action is text; without one there is nothing to read. -/
def legible : Action → Bool
  | health | create | list | events => true
  | get segment | update segment | delete segment => (segmentText? segment).isSome

end Action

variable {g : CompanyGate} {r : Request} {a : Action}

theorem Route.action?_head (route : Route) : route.action? "HEAD" = none := by
  cases route <;> rfl

/-- A request that asks for an action is answered by performing it. -/
theorem respond_eq (h : r.action? = some a) : respond g r = perform g r a := by
  obtain ⟨route, hroute, haction⟩ := Option.bind_eq_some_iff.mp h
  have hhead : (r.method == "HEAD") = false := by
    rw [beq_eq_false_iff_ne]
    intro hm
    rw [hm, Route.action?_head] at haction
    cases haction
  simp [respond, hroute, haction, hhead]

/-- An identifier that is no text is answered before the gate hears of the request. -/
theorem perform_of_illegible (h : a.legible = false) :
    perform g r a = answered illegalSegment := by
  cases a with
  | health | create | list | events => cases h
  | get segment | update segment | delete segment =>
    have hs : segmentText? segment = none := by simpa [Action.legible] using h
    simp [perform, withSegment, hs]

/-- Every other action on companies goes through the front of a pipeline. -/
theorem perform_eq_admitting {op : Operation} (hop : a.operation? = some op) (h : a.legible) :
    ∃ (β : Type) (success : β → Reply)
      (rest : Option Subject → Attempt (gateSignature Company.resource)
        (Plan (gateSignature Company.resource) Company (Except Failure β))),
      perform g r a =
        (Gate.request (g.admitting ⟨r.credential?⟩ op rest)).map (.ofOutcome success) := by
  cases a with
  | health => cases hop
  | create | list | events =>
    cases hop
    exact ⟨_, _, _, rfl⟩
  | get segment | update segment | delete segment =>
    cases hop
    obtain ⟨text, hs⟩ := Option.isSome_iff_exists.mp h
    simp only [perform, withSegment, hs]
    exact ⟨_, _, _, rfl⟩

/-- Whether a request is answered by performing an action: it asks for the action, or for the head of
its answer. -/
def Request.Performs (r : Request) (a : Action) : Prop :=
  ∃ route, Route.of? r.target.path = some route ∧
    route.action? (if r.method == "HEAD" then "GET" else r.method) = some a

/-- A reply that reports a failure, in its status and in the log. -/
def Reply.Reports (f : Failure) (reply : Reply) : Prop :=
  reply.response.status = f.httpStatus ∧ reply.entries = [f.logEntry]

/-- With or without a body, the action is performed; what is reported stays. -/
theorem respond_eq_map (h : r.Performs a) :
    ∃ trim : Reply → Reply, respond g r = (perform g r a).map trim ∧
      ∀ f reply, reply.Reports f → (trim reply).Reports f := by
  obtain ⟨route, hroute, haction⟩ := h
  cases hhead : r.method == "HEAD" with
  | true =>
    rw [hhead, if_pos rfl] at haction
    simp only [respond, hroute, hhead, if_true, haction]
    exact ⟨_, rfl, fun f reply hf => hf⟩
  | false =>
    rw [hhead, if_neg Bool.false_ne_true] at haction
    simp only [respond, hroute, hhead, Bool.false_eq_true, if_false, haction]
    exact ⟨id, (Request.map_id _).symm, fun f reply hf => hf⟩

/-- A request whose identifier is no text is answered before anybody is asked. -/
theorem respond_of_illegible (h : r.Performs a) (hl : a.legible = false) :
    ∃ reply, (respond g r).carryOut = .done reply := by
  obtain ⟨trim, htrim, _⟩ := respond_eq_map (g := g) h
  rw [htrim, perform_of_illegible hl]
  exact ⟨_, rfl⟩

/-- The reply to a request that performs an action on companies comes from a pipeline. -/
theorem respond_eq_admitting {op : Operation} (h : r.Performs a) (hop : a.operation? = some op)
    (hl : a.legible) :
    ∃ (β : Type) (reply : Except Failure β → Reply)
      (rest : Option Subject → Attempt (gateSignature Company.resource)
        (Plan (gateSignature Company.resource) Company (Except Failure β))),
      respond g r = (Gate.request (g.admitting ⟨r.credential?⟩ op rest)).map reply ∧
        ∀ f, (reply (.error f)).Reports f := by
  obtain ⟨trim, htrim, hreports⟩ := respond_eq_map (g := g) h
  obtain ⟨β, success, rest, hp⟩ := perform_eq_admitting (g := g) (r := r) hop hl
  rw [htrim, hp, Request.map_map]
  exact ⟨β, _, rest, rfl, fun f => hreports f _ ⟨rfl, rfl⟩⟩

/-! ## Answers -/

/-- Whether a request that nobody cancels may be answered by a response, with a verifier that gives
these answers, over whatever the registry and the sinks do. -/
def Answers (verify : Option String → Except AuthError (Option Subject)) (s : PagingSettings)
    (g : CompanyGate) (r : Request) (response : Response) : Prop :=
  ∃ v reply, (CompanyGate.withService s (respond g r)).carryOut.Ends v reply ∧
    Attended verify v ∧ reply.response = response

/-- Surroundings in which the registry is out of order. -/
def outOfOrder (verify : Option String → Except AuthError (Option Subject)) :
    (q : SystemCall) → q.Answer
  | .poll => false
  | .verify c => verify c
  | .consult _ _ => ()
  | .registry c => c.failed (.storage "out of order")
  | .now => default
  | .freshId => default
  | .send _ => .ok ()
  | .log _ => ()

variable {verify : Option String → Except AuthError (Option Subject)} {s : PagingSettings}

variable (verify s g r) in
/-- Every request is answered. -/
theorem exists_answers : ∃ response, Answers verify s g r response := by
  let p := (CompanyGate.withService s (respond g r)).carryOut
  have hanswer := Program.answer_of_mem_play (outOfOrder verify) p
  have hattended : Attended verify (p.play (outOfOrder verify)).1 :=
    ⟨fun b hb => hanswer _ hb, fun c x hx => hanswer _ hx⟩
  exact ⟨_, _, _, Program.ends_play (outOfOrder verify) p, hattended, rfl⟩

/-- An answer is what a run of the gate ends in, with the service behind it as the store. -/
theorem Answers.exists_run {response : Response} (h : Answers verify s g r response) :
    ∃ t reply, (respond g r).carryOut.Ends t reply ∧ Gate.Attended verify t ∧ Backed s t ∧
      reply.response = response := by
  obtain ⟨v, reply, hv, hattended, hreply⟩ := h
  obtain ⟨t, ht, ha, hb⟩ := CompanyGate.ends_of_withService hv hattended
  exact ⟨t, reply, ht, ha, hb, hreply⟩

/-! ## Refusals -/

/-- The credential of a request, or else the coarse check of an operation, refuses the request, and
this is why. -/
def Refused (verify : Option String → Except AuthError (Option Subject)) (g : CompanyGate)
    (r : Request) (op : Operation) (f : Failure) : Prop :=
  (∃ why, verify r.credential? = .error (.invalidToken why) ∧ f = .badToken) ∨
    ∃ s, verify r.credential? = .ok s ∧ g.evaluator.operations.allows op s () = false ∧
      f = .permissionDenied

theorem Refused.admission_eq {op : Operation} {f : Failure} (h : Refused verify g r op f) :
    g.admission verify ⟨r.credential?⟩ op = .error f := by
  rcases h with ⟨why, hv, rfl⟩ | ⟨s, hv, hop, rfl⟩
  · simp [Gate.admission, hv, Failure.ofAuth]
  · simp [Gate.admission, hv, hop]

/-- A legible request that is refused is answered by the problem document of the refusal. -/
theorem Answers.eq_problem {op : Operation} {f : Failure} {response : Response}
    (h : Answers verify s g r response) (ha : r.action? = some a) (hop : a.operation? = some op)
    (hl : a.legible) (hf : Refused verify g r op f) : response = .problem f := by
  obtain ⟨t, reply, ht, hattended, _, rfl⟩ := h.exists_run
  obtain ⟨β, success, rest, hp⟩ := perform_eq_admitting (g := g) (r := r) hop hl
  rw [respond_eq ha, hp, Request.ends_carryOut_map] at ht
  obtain ⟨x, hx, rfl⟩ := ht
  rcases Gate.ends_admitting hattended hx with ⟨f', hf', rfl⟩ | ⟨s', hs', _⟩
  · rw [hf.admission_eq] at hf'
    cases hf'
    rfl
  · rw [hf.admission_eq] at hs'
    cases hs'

/-- A request whose identifier is no text is always answered so. -/
theorem Answers.eq_illegalSegment {response : Response} (h : Answers verify s g r response)
    (ha : r.action? = some a) (hl : a.legible = false) : response = illegalSegment := by
  obtain ⟨t, reply, ht, _, _, rfl⟩ := h.exists_run
  rw [respond_eq ha, perform_of_illegible hl] at ht
  obtain ⟨plan, t₁, ⟨rfl, rfl⟩, t₂, rfl, rfl, rfl⟩ := Program.ends_bind.mp ht
  rfl

end Gatehouse.Http
