import Gatehouse.Proofs.Gate.Denial
import Gatehouse.Proofs.Http.Answer

/-!
# Who may follow events

Following the events of companies is meant for those who may list companies. The two requests are
decided along different ways: a listing passes the coarse check and then the check of its filter, the
stream of events passes the coarse check alone. So they agree for a caller exactly if the check of the
filter turns away nobody whom the coarse check lets pass.
-/

namespace Gatehouse.Http

variable {verify : Option String → Except AuthError (Option Subject)} {paging : PagingSettings}
  {g : CompanyGate} {r : Request} {s : Option Subject}

theorem forbidden_iff (f : Failure) : f.httpStatus = .forbidden ↔ f = .permissionDenied := by
  cases f <;> simp [Failure.httpStatus] <;> decide

/-- The reply to an outcome has the status of a denial exactly if the outcome is one. -/
theorem ofOutcome_forbidden_iff {β : Type} {success : β → Reply}
    (h : ∀ b, (success b).response.status ≠ .forbidden) (x : Except Failure β) :
    (Reply.ofOutcome success x).response.status = .forbidden ↔ x = .error .permissionDenied := by
  cases x with
  | ok b => simpa [Reply.ofOutcome] using h b
  | error f => simpa [Reply.ofOutcome, Reply.ofFailure, Response.problem] using forbidden_iff f

theorem listReply_status_ne (l : Listing Company) : (listReply l).response.status ≠ .forbidden := by
  show StatusCode.ok ≠ .forbidden
  decide

theorem readFilter_of_no_query (h : r.target.query.getD [] = []) :
    readFilter r = .ok .any := by
  rw [readFilter, h]
  decide +kernel

/-- The service behind the gate denies nothing. -/
theorem not_refuses_of_backed {t : Trace (gateSignature Company.resource)} (h : Backed paging t)
    (call : StoreCall Company.resource) (y : call.Answer) (hy : ⟨.store call, y⟩ ∈ t) :
    ¬call.Refuses y .permissionDenied := by
  intro hrefuses
  obtain ⟨u, hu⟩ := h call y hy
  exact (Service.fromRegistry_of_store hu hrefuses).ne_permissionDenied rfl

/-- Following events is denied exactly if the coarse check of listing is against it. -/
theorem events_forbidden_iff {response : Response} (h : Answers verify paging g r response)
    (ha : r.action? = some .events) (hv : verify r.credential? = .ok s) :
    response.status = .forbidden ↔ ¬g.evaluator.operations.allows .list s () := by
  obtain ⟨t, reply, ht, hattended, _, rfl⟩ := h.exists_run
  rw [respond_eq ha, perform, Request.ends_carryOut_map] at ht
  obtain ⟨x, hx, rfl⟩ := ht
  rw [ofOutcome_forbidden_iff (fun _ => by decide)]
  exact Gate.authorize_denied_iff hx hattended hv

/-- A listing without a query is denied exactly if one of the two checks of listing is against it. -/
theorem list_forbidden_iff {response : Response} (h : Answers verify paging g r response)
    (ha : r.action? = some .list) (hq : r.target.query.getD [] = [])
    (hv : verify r.credential? = .ok s) :
    response.status = .forbidden ↔ ¬(g.evaluator.operations.allows .list s () ∧
      g.evaluator.objects.allows .list s (.filter .any)) := by
  obtain ⟨t, reply, ht, hattended, hbacked, rfl⟩ := h.exists_run
  rw [respond_eq ha, perform, readFilter_of_no_query hq, Request.ends_carryOut_map] at ht
  obtain ⟨x, hx, rfl⟩ := ht
  rw [ofOutcome_forbidden_iff listReply_status_ne]
  exact Gate.list_denied_iff hx hattended hv (not_refuses_of_backed hbacked)

/-- **Events are open to some who may not list.** For a configured policy and a caller who is found
out, following events and listing without a query are denied together exactly if the checkers for the
object level of listing let the caller pass whenever those for the operation level do. Otherwise the
listing alone is denied, never the events alone. -/
theorem events_agree_with_list_iff {p : PolicySettings} (hg : CompanyGate.ofSettings p = .ok g)
    {events list : Request} (hevents : events.action? = some .events)
    (hlist : list.action? = some .list) (hquery : list.target.query.getD [] = [])
    (hv : verify events.credential? = .ok s) (hv' : verify list.credential? = .ok s) :
    ((∀ a b, Answers verify paging g events a → Answers verify paging g list b →
        (a.status = .forbidden ↔ b.status = .forbidden)) ↔
      (p.operations.allows .list s → p.objects.allows .list s)) ∧
    ∀ a b, Answers verify paging g events a → Answers verify paging g list b →
      a.status = .forbidden → b.status = .forbidden := by
  have hop : g.evaluator.operations.allows .list s () = p.operations.allows .list s := by
    rw [CompanyGate.evaluator_of_ofSettings hg]
    exact Chains.allows_table ..
  have hobj : g.evaluator.objects.allows .list s (.filter .any) = p.objects.allows .list s := by
    rw [CompanyGate.evaluator_of_ofSettings hg]
    exact Chains.allows_table ..
  -- Both verdicts can be read off the policy, and no run of either request goes against them.
  have hagree : ∀ a b, Answers verify paging g events a → Answers verify paging g list b →
      ((a.status = .forbidden ↔ ¬p.operations.allows .list s) ∧
        (b.status = .forbidden ↔ ¬(p.operations.allows .list s ∧ p.objects.allows .list s))) := by
    intro a b ha hb
    rw [← hop, ← hobj]
    exact ⟨events_forbidden_iff ha hevents hv, list_forbidden_iff hb hlist hquery hv'⟩
  refine ⟨⟨fun h hallows => ?_, fun h a b ha hb => ?_⟩, fun a b ha hb hforbidden => ?_⟩
  · obtain ⟨a, ha⟩ := exists_answers g events verify paging
    obtain ⟨b, hb⟩ := exists_answers g list verify paging
    obtain ⟨ha', hb'⟩ := hagree a b ha hb
    have hsame := h a b ha hb
    rw [ha', hb'] at hsame
    by_contra hobject
    exact hsame.mpr (fun hboth => hobject hboth.2) hallows
  · obtain ⟨ha', hb'⟩ := hagree a b ha hb
    rw [ha', hb']
    exact not_congr ⟨fun hallows => ⟨hallows, h hallows⟩, And.left⟩
  · obtain ⟨ha', hb'⟩ := hagree a b ha hb
    exact hb'.mpr fun hboth => ha'.mp hforbidden hboth.1

/-- A verifier that takes everybody for anonymous. -/
def indifferent : Option String → Except AuthError (Option Subject) := fun _ => .ok none

/-- A request to follow events, without a credential. -/
def anonymousEvents : Request where
  method := "GET"
  target := ⟨"/companies/events".toList, none⟩
  headers := []
  body := []

/-- A request to list companies, without a credential and without a query. -/
def anonymousList : Request := { anonymousEvents with target := ⟨"/companies".toList, none⟩ }

/-- Under the standard policy whoever may follow events may list companies. -/
theorem events_agree_with_list_standard :
    ∃ g, CompanyGate.ofSettings .standard = .ok g ∧
      ∀ a b, Answers indifferent .standard g anonymousEvents a →
        Answers indifferent .standard g anonymousList b →
        (a.status = .forbidden ↔ b.status = .forbidden) := by
  obtain ⟨g, hg⟩ : ∃ g, CompanyGate.ofSettings .standard = .ok g := ⟨_, rfl⟩
  refine ⟨g, hg, (events_agree_with_list_iff (s := none) hg ?_ ?_ ?_ ?_ ?_).1.mpr ?_⟩
  · decide
  · decide
  · rfl
  · rfl
  · rfl
  · decide

/-- The standard policy, except that listings are denied to everybody at the object level. -/
def unlisted : PolicySettings :=
  { PolicySettings.standard with objects := Chains.standard.set .list [.nobody] }

/-- A caller who may not list companies follows their events. -/
theorem events_open_list_forbidden :
    ∃ g, CompanyGate.ofSettings unlisted = .ok g ∧
      ∃ a b, Answers indifferent .standard g anonymousEvents a ∧
        Answers indifferent .standard g anonymousList b ∧
        a.status ≠ .forbidden ∧ b.status = .forbidden := by
  obtain ⟨g, hg⟩ : ∃ g, CompanyGate.ofSettings unlisted = .ok g := ⟨_, rfl⟩
  have he := CompanyGate.evaluator_of_ofSettings hg
  obtain ⟨a, ha⟩ := exists_answers g anonymousEvents indifferent .standard
  obtain ⟨b, hb⟩ := exists_answers g anonymousList indifferent .standard
  refine ⟨g, hg, a, b, ha, hb, ?_, ?_⟩
  · rw [ne_eq, events_forbidden_iff ha (by decide) rfl, he, not_not]
    decide
  · rw [list_forbidden_iff hb (by decide) rfl rfl, he]
    decide

end Gatehouse.Http
