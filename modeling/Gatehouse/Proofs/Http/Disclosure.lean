import Gatehouse.Gate.RemoteStatus
import Gatehouse.Proofs.Company.Cause
import Gatehouse.Proofs.Http.Answer

/-!
# What a failure discloses

Answers to failed requests tell the kind of the failure and nothing else. A request is carried out
as an errand at the gate, and its response is made from the outcome; the response to a failure, and
the status of a remote call that fails so, depend on the kind alone.

`FailsFor` says that a request has failed for a cause that the run shows, and how it was answered.
The status in a body, wherever there is one, is that of the response (`Truthful`).
-/

namespace Gatehouse

/-- What a program ends with is decided by what it was told. -/
theorem Program.Ends.unique {S : Signature} {α : Type} {p : Program S α} {t : Trace S} {a b : α}
    (ha : p.Ends t a) (hb : p.Ends t b) : a = b := by
  induction p generalizing t with
  | done x => exact ha.2.symm.trans hb.2
  | ask q next ih =>
    obtain ⟨x, u, rfl, hu⟩ := ha
    obtain ⟨y, w, heq, hw⟩ := hb
    cases heq
    exact ih x hu hw

namespace Http

/-! ## Kinds -/

/-- Failures of one kind are answered alike, over either transport. -/
theorem disclosed_of_kind_eq {f f' : Failure} (h : f.kind = f'.kind) :
    Response.problem f = Response.problem f' ∧ f.toRemoteStatus = f'.toRemoteStatus := by
  cases f <;> cases f' <;> simp only [Failure.kind, Failure.code, reduceCtorEq,
    Failure.Kind.invalid.injEq, Failure.Kind.missing.injEq, Failure.Kind.internal.injEq] at h
  case invalid.invalid => rw [h.1, h.2]; exact ⟨rfl, rfl⟩
  case notFound.notFound => rw [h.1, h.2]; exact ⟨rfl, rfl⟩
  case unexpected.cancelled => exact absurd h (by decide)
  case cancelled.unexpected => exact absurd h (by decide)
  -- What else is of one kind differs at most in a message that is told to nobody.
  all_goals exact ⟨rfl, rfl⟩

/-! ## Requests as errands -/

/-- The errand for an action, unless the action needs nothing from the gate. -/
def Request.errand? (r : Request) : Action → Option Errand
  | .health => none
  | .create => some (.create (readBody Company.Draft.decodeRequest r))
  | .list => some (.list (readFilter r))
  | .events => some (.authorize .list)
  | .get segment => (segmentText? segment).map fun id => .get (readId id)
  | .update segment => (segmentText? segment).map fun id => .update do
    let id ← readId id
    let patch ← readBody Company.Patch.decodeRequest r
    pure (patch id)
  | .delete segment => (segmentText? segment).map fun id => .delete (readId id)

/-- The reply to an errand for an action that succeeds. -/
def Action.success : Action → Errand.Result → Reply
  | create, .company c => createdReply c
  | list, .listing l => listReply l
  | events, .caller _ => subscribedReply
  | get _, .company c | update _, .company c => .quiet (shownOne .ok c)
  | delete segment, .deleted => deletedReply ((segmentText? segment).getD "")
  | _, _ => .quiet illegalSegment

/-- What is left of a response to a request for its head. -/
def Request.trim (r : Request) (response : Response) : Response :=
  if r.method == "HEAD" then response.withoutBody else response

variable {g g' : CompanyGate} {r r' : Request} {a : Action} {e : Errand}

theorem map_ofOutcome {β : Type} (k : β → Errand.Result) (success : Errand.Result → Reply)
    (q : Gatehouse.Request (gateSignature Company.resource) Company (Except Failure β)) :
    (q.map fun x => x.map k).map (Reply.ofOutcome success) =
      q.map (.ofOutcome fun b => success (k b)) := by
  rw [Request.map_map]
  congr
  funext x
  cases x <;> rfl

/-- An action is performed by its errand. -/
theorem perform_eq_errand (h : r.errand? a = some e) :
    perform g r a = (e.atGate g ⟨r.credential?⟩).map (.ofOutcome a.success) := by
  cases a with
  | health => cases h
  | create | list | events =>
    cases h
    rw [Errand.atGate, map_ofOutcome]
    rfl
  | get segment | update segment =>
    obtain ⟨id, hid, rfl⟩ := Option.map_eq_some_iff.mp h
    rw [Errand.atGate, map_ofOutcome, perform, withSegment, hid]
    rfl
  | delete segment =>
    obtain ⟨id, hid, rfl⟩ := Option.map_eq_some_iff.mp h
    rw [Errand.atGate, map_ofOutcome, perform, withSegment, hid]
    simp only [Action.success, hid, Option.getD_some]

/-- An action without an errand is answered at once. -/
theorem perform_eq_answered (h : r.errand? a = none) :
    perform g r a = answered (.text .ok "ok") ∨ perform g r a = answered illegalSegment := by
  cases a with
  | health => exact .inl rfl
  | create | list | events => cases h
  | get segment | update segment | delete segment =>
    rw [Request.errand?, Option.map_eq_none_iff] at h
    rw [perform, withSegment, h]
    exact .inr rfl

/-- With or without a body, an action is performed. -/
theorem respond_eq_trimmed (h : r.Performs a) : respond g r =
    (perform g r a).map fun reply => { reply with response := r.trim reply.response } := by
  obtain ⟨route, hroute, haction⟩ := h
  cases hhead : r.method == "HEAD" with
  | true =>
    rw [hhead, if_pos rfl] at haction
    simp [respond, hroute, hhead, haction, Request.trim]
  | false =>
    rw [hhead, if_neg Bool.false_ne_true] at haction
    simp only [respond, hroute, hhead, Bool.false_eq_true, if_false, haction, Request.trim]
    exact (Request.map_id _).symm

/-- A run of a request is one of its errand, and the reply is made from the outcome. -/
theorem exists_outcome {paging : PagingSettings} {v : Trace systemSignature} {reply : Reply}
    (ha : r.Performs a) (he : r.errand? a = some e)
    (h : (CompanyGate.withService paging (respond g r)).carryOut.Ends v reply) :
    ∃ outcome, (e.request g paging ⟨r.credential?⟩).carryOut.Ends v outcome ∧
      reply.response = r.trim (Reply.ofOutcome a.success outcome).response := by
  rw [CompanyGate.withService, Request.carryOut_refine] at h
  obtain ⟨t, ht, himp⟩ := Program.ends_refine.mp h
  rw [respond_eq_trimmed ha, perform_eq_errand he, Request.map_map] at ht
  obtain ⟨outcome, houtcome, rfl⟩ := Request.ends_carryOut_map.mp ht
  refine ⟨outcome, ?_, rfl⟩
  rw [Errand.request, CompanyGate.withService, Request.carryOut_refine]
  exact Program.ends_refine.mpr ⟨t, houtcome, himp⟩

/-! ## Answers to failures -/

/-- In some run the request fails for a cause that the run shows, and this is the response. -/
def FailsFor (paging : PagingSettings) (g : CompanyGate) (r : Request) (x : Cause)
    (response : Response) : Prop :=
  ∃ a e v reply, r.Performs a ∧ r.errand? a = some e ∧
    (CompanyGate.withService paging (respond g r)).carryOut.Ends v reply ∧
    (e.request g paging ⟨r.credential?⟩).carryOut.Ends v (.error x.failure) ∧
    e.Thwarted g ⟨r.credential?⟩ v x ∧ reply.response = response

theorem FailsFor.response_eq {paging : PagingSettings} {x : Cause} {response : Response}
    (h : FailsFor paging g r x response) : response = r.trim (.problem x.failure) := by
  obtain ⟨a, e, v, reply, ha, he, hv, hfails, -, rfl⟩ := h
  obtain ⟨outcome, houtcome, hreply⟩ := exists_outcome ha he hv
  rw [hreply, houtcome.unique hfails]
  rfl

/-! ## The status in a body -/

/-- The value of a member of a body. -/
def Body.member? (name : String) : Body → Option Json
  | .json (.obj members) => Members.get? name members
  | _ => none

/-- The status that a body names, if it names one, is that of the response. -/
def Response.Truthful (response : Response) : Prop :=
  ∀ j, response.body.member? "status" = some j → j = .nat response.status.number

theorem status_problem (f : Failure) :
    (Response.problem f).body.member? "status" = some (.nat (Response.problem f).status.number) :=
  rfl

theorem truthful_of_member? {response : Response} (h : response.body.member? "status" = none) :
    response.Truthful := by
  intro j hj
  rw [h] at hj
  cases hj

theorem truthful_problem (f : Failure) : (Response.problem f).Truthful := by
  intro j hj
  rw [status_problem] at hj
  cases hj
  rfl

theorem truthful_shownOne (status : StatusCode) (c : Company) :
    (shownOne status c).Truthful :=
  truthful_of_member? rfl

theorem truthful_listReply (l : Listing Company) : (listReply l).response.Truthful :=
  truthful_of_member? rfl

theorem truthful_success (a : Action) (result : Errand.Result) :
    (a.success result).response.Truthful := by
  unfold Action.success
  split
  · exact truthful_shownOne .created _
  · exact truthful_listReply _
  · exact truthful_of_member? rfl
  · exact truthful_shownOne .ok _
  · exact truthful_shownOne .ok _
  · exact truthful_of_member? rfl
  · exact truthful_of_member? rfl

theorem Response.Truthful.trim {response : Response} (h : response.Truthful) (r : Request) :
    (r.trim response).Truthful := by
  rw [Request.trim]
  split
  · exact truthful_of_member? rfl
  · exact h

theorem truthful_of_ends_answered {response : Response}
    {t : Trace (gateSignature Company.resource)} {reply : Reply}
    (h : (answered response).carryOut.Ends t reply) (hr : response.Truthful) :
    reply.response.Truthful := by
  obtain ⟨-, rfl⟩ := h
  exact hr

/-- Whatever a request is, no run of it ends in a response that names another status. -/
theorem truthful_respond {t : Trace (gateSignature Company.resource)} {reply : Reply}
    (h : (respond g r).carryOut.Ends t reply) : reply.response.Truthful := by
  cases hroute : Route.of? r.target.path with
  | none =>
    simp only [respond, hroute] at h
    exact truthful_of_ends_answered h (truthful_of_member? rfl)
  | some route =>
  cases haction : route.action? (if r.method == "HEAD" then "GET" else r.method) with
  | none =>
    simp only [respond, hroute, haction] at h
    exact truthful_of_ends_answered h (truthful_of_member? rfl)
  | some a =>
  rw [respond_eq_trimmed ⟨route, hroute, haction⟩] at h
  obtain ⟨reply, hreply, rfl⟩ := Request.ends_carryOut_map.mp h
  refine Response.Truthful.trim ?_ r
  cases he : r.errand? a with
  | some e =>
    rw [perform_eq_errand he] at hreply
    obtain ⟨outcome, -, rfl⟩ := Request.ends_carryOut_map.mp hreply
    cases outcome with
    | ok result => exact truthful_success a result
    | error f => exact truthful_problem f
  | none =>
    rcases perform_eq_answered he with heq | heq
    · rw [heq] at hreply
      exact truthful_of_ends_answered hreply (truthful_of_member? rfl)
    · rw [heq] at hreply
      exact truthful_of_ends_answered hreply (truthful_of_member? rfl)

/-! ## The headline -/

/-- **Failures disclose their kind.** A request that is carried out succeeds, or it fails for a
cause that its run shows. If two requests fail for causes of one kind, whatever they ask for,
whoever asks, whatever the policies are and whatever the store holds, then they get one response, or
its head, and one status over remote calls. The kind of a rejected credential, of a denial and of a
fault of the service with its code says nothing about the reason; that of malformed input is the
field and the message, that of something missing the resource and the identifier. No response of the
service names a status in its body that is not its own, and the response to a failure names one. -/
theorem failures_disclose_kind :
    (∀ (paging : PagingSettings) (g : CompanyGate) (r : Request) (a : Action) (e : Errand)
      (v : Trace systemSignature) (reply : Reply), r.Performs a → r.errand? a = some e →
      (CompanyGate.withService paging (respond g r)).carryOut.Ends v reply →
      (∃ result, (e.request g paging ⟨r.credential?⟩).carryOut.Ends v (.ok result) ∧
        reply.response = r.trim (a.success result).response) ∨
      ∃ x, FailsFor paging g r x reply.response) ∧
    (∀ (paging paging' : PagingSettings) (g g' : CompanyGate) (r r' : Request) (x x' : Cause)
      (response response' : Response), FailsFor paging g r x response →
      FailsFor paging' g' r' x' response' → x.kind = x'.kind →
      (r.method == "HEAD") = (r'.method == "HEAD") → response = response') ∧
    (∀ x x' : Cause, x.kind = x'.kind →
      Response.problem x.failure = Response.problem x'.failure ∧
      x.failure.toRemoteStatus = x'.failure.toRemoteStatus) ∧
    (∀ (paging : PagingSettings) (g : CompanyGate) (r : Request) (v : Trace systemSignature)
      (reply : Reply), (CompanyGate.withService paging (respond g r)).carryOut.Ends v reply →
      reply.response.Truthful) ∧
    ∀ f, (Response.problem f).body.member? "status" =
      some (.nat (Response.problem f).status.number) := by
  have hkind : ∀ x x' : Cause, x.kind = x'.kind →
      Response.problem x.failure = Response.problem x'.failure ∧
      x.failure.toRemoteStatus = x'.failure.toRemoteStatus := by
    intro x x' h
    rw [← x.kind_failure, ← x'.kind_failure] at h
    exact disclosed_of_kind_eq h
  refine ⟨?_, ?_, hkind, ?_, status_problem⟩
  · intro paging g r a e v reply ha he hv
    obtain ⟨outcome, houtcome, hreply⟩ := exists_outcome ha he hv
    cases outcome with
    | ok result => exact .inl ⟨result, houtcome, hreply⟩
    | error f =>
      obtain ⟨x, hx, rfl⟩ := Errand.exists_cause houtcome
      exact .inr ⟨x, a, e, v, reply, ha, he, hv, houtcome, hx, rfl⟩
  · intro paging paging' g g' r r' x x' response response' h h' hx hhead
    rw [h.response_eq, h'.response_eq, (hkind x x' hx).1, Request.trim, Request.trim, hhead]
  · intro paging g r v reply hv
    rw [CompanyGate.withService, Request.carryOut_refine] at hv
    obtain ⟨t, ht, -⟩ := Program.ends_refine.mp hv
    exact truthful_respond ht

/-- A request by somebody who presents a credential. -/
def presenting (method path : String) : Request where
  method := method
  target := ⟨path.toList, none⟩
  headers := [("authorization", ⟨"Bearer expired".toUTF8.toList, by decide +kernel⟩)]
  body := []

/-- The run of a request whose credential is rejected. -/
def turnedAway (token : Option String) (why : AuthError) : Trace systemSignature :=
  [⟨.poll, false⟩, ⟨.verify token, .error why⟩,
    ⟨.log (Log.debug "authentication failed" [("state", "error"), ("error", why.message)]), ()⟩]

/-- Somebody who lists companies with a token that has expired hears the same as somebody who
creates one with a token that names nobody. -/
theorem failures_disclose_kind_rejected : ∃ g, CompanyGate.ofSettings .standard = .ok g ∧
    ∃ response, FailsFor .standard g (presenting "GET" "/companies")
        (.auth (.invalidToken .expired)) response ∧
      FailsFor .standard g (presenting "POST" "/companies")
        (.auth (.invalidToken (.missingClaim "sub"))) response := by
  obtain ⟨g, hg⟩ : ∃ g, CompanyGate.ofSettings .standard = .ok g := ⟨_, rfl⟩
  have hlist : FailsFor .standard g (presenting "GET" "/companies")
      (.auth (.invalidToken .expired)) (.problem .badToken) :=
    ⟨.list, _, turnedAway _ (.invalidToken .expired), .ofFailure .badToken,
      ⟨.companies, by decide +kernel, rfl⟩, rfl,
      ⟨_, _, rfl, _, _, rfl, _, _, rfl, rfl, rfl⟩, ⟨_, _, rfl, _, _, rfl, _, _, rfl, rfl, rfl⟩,
      .auth _ (by simp [turnedAway]), rfl⟩
  have hcreate : FailsFor .standard g (presenting "POST" "/companies")
      (.auth (.invalidToken (.missingClaim "sub"))) (.problem .badToken) :=
    ⟨.create, _, turnedAway _ (.invalidToken (.missingClaim "sub")), .ofFailure .badToken,
      ⟨.companies, by decide +kernel, rfl⟩, rfl,
      ⟨_, _, rfl, _, _, rfl, _, _, rfl, rfl, rfl⟩, ⟨_, _, rfl, _, _, rfl, _, _, rfl, rfl, rfl⟩,
      .auth _ (by simp [turnedAway]), rfl⟩
  have hsame := failures_disclose_kind.2.1 _ _ _ _ _ _ _ _ _ _ hlist hcreate rfl rfl
  exact ⟨g, hg, _, hlist, hsame ▸ hcreate⟩

end Http

end Gatehouse
