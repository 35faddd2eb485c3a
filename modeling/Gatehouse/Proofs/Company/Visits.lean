import Gatehouse.Proofs.Company.Effects
import Gatehouse.Proofs.Gate.News

/-!
# Requests one after another

A visit is a request to the registry of companies with all that happened to it until it had ended. It
may have been cancelled, and its caller may have left, even while a task was running. In front of a
registry that nobody else uses, one visit follows the other, and the registry goes from state to state.

What a visit does to the registry is up to the one call on the store by which it changes something, if
it makes one, and this call is also what the sinks are told about.
-/

namespace Gatehouse

open Attempt

/-! ## Events -/

/-- The event that a question tells the sinks. -/
def GateCall.event? {K : Resource} : GateCall K → Option (Event K.Entity)
  | send e => some e
  | _ => none

/-- The event that a question tells the sinks. -/
def SystemCall.event? : SystemCall → Option (Event Company)
  | send e => some e
  | _ => none

/-- The events that the sinks are told in a run. -/
def published (v : Trace systemSignature) : List (Event Company) :=
  v.filterMap fun a => a.question.event?

theorem published_append (u v : Trace systemSignature) :
    published (u ++ v) = published u ++ published v :=
  List.filterMap_append ..

/-- Questions that tell the sinks nothing. -/
def Speechless (q : SystemCall) : Prop := q.event? = none

theorem published_eq_nil {α : Type} {p : Program systemSignature α} (hp : p.AsksOnly Speechless)
    {v : Trace systemSignature} (h : p.Begins v) : published v = [] := by
  rw [published, List.filterMap_eq_nil_iff]
  exact hp.of_begins h

namespace Service

theorem speechless_asking {q : SystemCall} (h : q.event? = none) : AsksOnly Speechless (asking q) :=
  ⟨h, fun _ => trivial⟩

theorem speechless_orFail {α : Type} {x : Except RegistryError α} : AsksOnly Speechless (orFail x) :=
  trivial

/-- The service tells the sinks nothing. -/
theorem speechless_store (s : PagingSettings) (call : StoreCall Company.resource) :
    (store s call).AsksOnly Speechless := by
  cases call with
  | get id =>
    refine (speechless_asking rfl).bind fun _ => (speechless_asking rfl).bind fun x => ?_
    refine speechless_orFail.bind fun found => ?_
    cases found with
    | some c => exact asksOnly_pure
    | none => exact speechless_orFail
  | create d =>
    refine speechless_orFail.bind fun _ => (speechless_asking rfl).bind fun now => ?_
    refine (speechless_asking rfl).bind fun id => (speechless_asking rfl).bind fun x => ?_
    exact speechless_orFail.bind fun c => (speechless_asking rfl).bind fun _ => asksOnly_pure
  | update p =>
    refine speechless_orFail.bind fun _ => (speechless_asking rfl).bind fun x => ?_
    refine speechless_orFail.bind fun found => ?_
    cases found with
    | none => exact speechless_orFail
    | some c =>
      refine (speechless_asking rfl).bind fun now => (speechless_asking rfl).bind fun y => ?_
      exact speechless_orFail.bind fun c => (speechless_asking rfl).bind fun _ => asksOnly_pure
  | delete id =>
    refine (speechless_asking rfl).bind fun x => speechless_orFail.bind fun found => ?_
    cases found with
    | true => exact speechless_asking rfl
    | false => exact speechless_orFail
  | list f =>
    refine speechless_orFail.bind fun page => (speechless_asking rfl).bind fun x => ?_
    exact speechless_orFail.bind fun cs => (speechless_asking rfl).bind fun _ => asksOnly_pure
  | count f => exact (speechless_asking rfl).bind fun _ => speechless_orFail

/-- The events of a run of the system are those that the gate tells. -/
theorem published_of_implements {s : PagingSettings} {t : Trace (gateSignature Company.resource)}
    {v : Trace systemSignature} (h : Program.Implements (answering s) t v) :
    published v = (Gate.sends t).filterMap fun a => a.question.event? := by
  induction h with
  | nil => rfl
  | @cons q x t u v hu _ ih =>
    rw [published_append, ih]
    cases q with
    | store call =>
      rw [published_eq_nil (speechless_store s call) hu.begins]
      rfl
    | send e =>
      obtain ⟨y, u', rfl, rfl, rfl⟩ := hu
      rfl
    | _ =>
      obtain ⟨y, u', rfl, rfl, rfl⟩ := hu
      rfl

end Service

/-! ## The gate in front of the registry -/

/-- A question of the gate in front of a registry: the service, or whoever else is asked, makes a part
of this run. -/
def GateStep (s : PagingSettings) (v : Trace systemSignature) (r : Registry)
    (a : (gateSignature Company.resource).Act) (r' : Registry) : Prop :=
  ∃ u, (Service.answering s a.question).Ends u a.answer ∧ u ⊆ v ∧ Leads Registry.Step r u r'

theorem eq_of_gateStep {s : PagingSettings} {v : Trace systemSignature} {r r' : Registry}
    {a : (gateSignature Company.resource).Act} (ha : a.question.mutates = false)
    (h : GateStep s v r a r') : r' = r := by
  obtain ⟨u, hu, -, hr⟩ := h
  refine (hr.still fun b hb r r' => ?_).1
  exact Registry.eq_of_step_of_harmless
    ((Service.harmless_answering ha).of_begins hu.begins b hb)

theorem eq_of_gateStep_get {s : PagingSettings} {v : Trace systemSignature} {r r' : Registry}
    {id : Uuid} {x : Except Failure Company} (h : GateStep s v r ⟨.store (.get id), x⟩ r') :
    x = Service.lookup r.find? id := by
  obtain ⟨u, hu, -, hlead⟩ := h
  exact (Service.get_effect hu hlead).2

theorem eq_of_gateStep_list {s : PagingSettings} {v : Trace systemSignature} {r r' : Registry}
    {f : Company.Filter} {x : Except Failure (List Company)}
    (h : GateStep s v r ⟨.store (.list f), x⟩ r') :
    x = ((Page.ofFilter s f).mapError Failure.ofRegistry).map r.page := by
  obtain ⟨u, hu, -, hlead⟩ := h
  exact (Service.list_effect hu hlead).2

theorem eq_of_gateStep_count {s : PagingSettings} {v : Trace systemSignature} {r r' : Registry}
    {f : Company.Filter} {x : Except Failure Nat} (h : GateStep s v r ⟨.store (.count f), x⟩ r') :
    x = .ok (r.count (.ofFilter f)) := by
  obtain ⟨u, hu, -, hlead⟩ := h
  exact (Service.count_effect hu hlead).2

theorem find?_of_gateStep {s : PagingSettings} {v : Trace systemSignature} {r r' : Registry}
    {id : Uuid} {row : Company} (h : GateStep s v r ⟨.store (.get id), .ok row⟩ r') :
    r.find? id = some row :=
  Service.lookup_ok_iff.mp (eq_of_gateStep_get h).symm

namespace Errand

variable {g : CompanyGate} {s : PagingSettings} {c : Caller} {e : Errand}
  {v : Trace systemSignature} {r r' : Registry}

/-- Whether a request only reads. -/
def reads : Errand → Bool
  | get _ | list _ | authorize _ => true
  | create _ | update _ | delete _ => false

theorem silent_atGate (g : CompanyGate) (c : Caller) (e : Errand) :
    Program.AsksOnly Gate.Silent (e.atGate g c) := by
  cases e with
  | create input => exact Request.asksOnly_map Gate.silent_create _
  | update input => exact Request.asksOnly_map Gate.silent_update _
  | delete input => exact Request.asksOnly_map Gate.silent_delete _
  | get input => exact Request.asksOnly_map Gate.silent_get _
  | list input => exact Request.asksOnly_map Gate.silent_list _
  | authorize op => exact Request.asksOnly_map Gate.silent_authorize _

theorem speechless_answering {q : GateCall Company.resource} (hq : Gate.Silent q) :
    (Service.answering s q).AsksOnly Speechless := by
  cases q with
  | store call => exact Service.speechless_store s call
  | send e => cases hq.2
  | poll | verify _ | consult _ _ | log _ => exact ⟨rfl, fun _ => trivial⟩

/-- While it is planned a request leaves the registry as it is and tells nobody. -/
theorem still_of_planning (h : Program.Begins (e.request g s c) v)
    (hv : Leads Registry.Step r v r') : r' = r ∧ published v = [] := by
  have hharmless : Program.AsksOnly Harmless (e.request g s c) :=
    Request.asksOnly_refine (silent_atGate g c e) fun q hq => Service.harmless_answering hq.1
  have hspeechless : Program.AsksOnly Speechless (e.request g s c) :=
    Request.asksOnly_refine (silent_atGate g c e) fun q hq => speechless_answering hq
  refine ⟨(hv.still fun a ha r r' => ?_).1, published_eq_nil hspeechless h⟩
  exact Registry.eq_of_step_of_harmless (hharmless.of_begins h a ha)

/-- What happens in front of a registry, as the gate sees it. -/
theorem exists_atGate {x : Except Failure Result} (h : (e.request g s c).carryOut.Ends v x)
    (hv : Leads Registry.Step r v r') : ∃ t, (e.atGate g c).carryOut.Ends t x ∧
      Leads (GateStep s v) r t r' ∧
      published v = (Gate.sends t).filterMap fun a => a.question.event? := by
  rw [request, CompanyGate.withService, Request.carryOut_refine] at h
  obtain ⟨t, ht, himp⟩ := Program.ends_refine.mp h
  exact ⟨t, ht, Program.leads_of_implements himp hv, Service.published_of_implements himp⟩

theorem answer_of_reads {t : Trace (gateSignature Company.resource)}
    {plan : Plan (gateSignature Company.resource) Company (Except Failure Result)}
    (he : e.reads = true) (h : Program.Ends (e.atGate g c) t plan) : ∃ b, plan = .answer b := by
  cases e with
  | get input =>
    obtain ⟨p, t₁, hp, t₂, -, -, rfl⟩ := Program.ends_bind.mp h
    obtain ⟨b, rfl⟩ := Gate.answer_of_get g c hp
    exact ⟨_, rfl⟩
  | list input =>
    obtain ⟨p, t₁, hp, t₂, -, -, rfl⟩ := Program.ends_bind.mp h
    obtain ⟨b, rfl⟩ := Gate.answer_of_list g c hp
    exact ⟨_, rfl⟩
  | authorize op =>
    obtain ⟨p, t₁, hp, t₂, -, -, rfl⟩ := Program.ends_bind.mp h
    obtain ⟨b, rfl⟩ := Gate.answer_of_authorize g c hp
    exact ⟨_, rfl⟩
  | create _ | update _ | delete _ => cases he

/-- A request that only reads leaves the registry as it is and tells nobody. -/
theorem still_of_reads {x : Except Failure Result} (he : e.reads = true)
    (h : (e.request g s c).carryOut.Ends v x) (hv : Leads Registry.Step r v r') :
    r' = r ∧ published v = [] := by
  obtain ⟨t, ht, hlead, hnews⟩ := exists_atGate h hv
  obtain ⟨hchanges, hsends⟩ :=
    Gate.silent_of_answers (silent_atGate g c e) (fun _ _ => answer_of_reads he) ht
  refine ⟨(hlead.still fun a ha _ _ => eq_of_gateStep ?_).1, by simp [hnews, hsends]⟩
  simpa using List.filter_eq_nil_iff.mp hchanges a ha

section Mutations

variable {ι σ β : Type} {m : Gate.Mutation Company.resource ι σ β} {input : Except Failure ι}
  {op : Operation} {f : β → Result} {x : Except Failure Result}

/-- A request to change something that is over has left everything as it was, or it is all up to the
one call on the store. -/
theorem stored_of_request (hm : m.Plain)
    (he : e.atGate g c = (Gate.request (m.checks g c op input)).map fun y => y.map f)
    (h : (e.request g s c).carryOut.Ends v x) (hv : Leads Registry.Step r v r') :
    (r' = r ∧ published v = [] ∧ ∃ e, x = .error e) ∨
      ∃ i seen t, ∃ y : (m.call i).Answer, Yields (m.see i) t seen ∧
        (∀ a ∈ t, GateStep s v r a r) ∧ GateStep s v r ⟨.store (m.call i), y⟩ r' ∧
        ((∃ e, m.answer_eq i ▸ y = Except.error e ∧ published v = [] ∧ x = .error e) ∨
          ∃ reply, m.answer_eq i ▸ y = Except.ok reply ∧
            published v = [⟨m.change, m.news seen reply⟩] ∧
            x = (m.finish (.ok (m.news seen reply))).map f) := by
  obtain ⟨t, ht, hlead, hnews⟩ := exists_atGate h hv
  rw [he] at ht
  obtain ⟨z, hz, rfl⟩ := Request.ends_carryOut_map.mp ht
  rw [hnews]
  rcases Gate.stored_of_ends hm (fun _ _ _ => eq_of_gateStep) hz hlead with
    ⟨hr, hsends, e, rfl⟩ | ⟨i, seen, u, y, -, hu, hread, hstore, hy⟩
  · exact .inl ⟨hr, by simp [hsends], e, rfl⟩
  · refine .inr ⟨i, seen, u, y, hu, hread, hstore, hy.imp ?_ ?_⟩
    · intro ⟨e, he, hsends, hz⟩
      exact ⟨e, he, by simp [hsends], by rw [hz]; rfl⟩
    · intro ⟨reply, d, hreply, hsends, hz⟩
      exact ⟨reply, hreply, by rw [hsends]; rfl, by rw [hz]⟩

end Mutations

end Errand

/-! ## Visits -/

/-- A request with its caller, all that happened to it until it had ended, and what the caller got, if
still there. -/
structure Visit where
  caller : Caller
  errand : Errand
  course : List (Happening systemSignature)
  got : Option (Except Failure Errand.Result)

namespace Visit

/-- The questions of a visit with their answers. -/
def said (visit : Visit) : Trace systemSignature := acts visit.course

/-- A visit in front of a registry that nobody else uses. -/
structure Step (g : CompanyGate) (s : PagingSettings) (r : Registry) (visit : Visit)
    (r' : Registry) : Prop where
  course : Process.Steps (.planning (visit.errand.request g s visit.caller)) visit.course
    (.ended visit.got)
  registry : Leads Registry.Step r visit.said r'

variable {g : CompanyGate} {s : PagingSettings} {r r' : Registry} {visit : Visit}

/-- A visit keeps every company under its own identifier. -/
theorem Step.keyed (h : visit.Step g s r r') (hr : r.Keyed) : r'.Keyed := by
  refine h.registry.keeps (fun r a r' hstep hr => ?_) hr
  obtain ⟨q, x⟩ := a
  cases q with
  | registry call =>
    have hperform : call.perform r = (x, r') := hstep
    have hkeyed : (call.perform r).2.Keyed := RegistryCall.keyed_perform hr
    rwa [hperform] at hkeyed
  | _ =>
    obtain rfl : r' = r := hstep
    exact hr

/-- Whoever is asked besides the registry, there is a visit whose caller stays. -/
theorem exists_visit (g : CompanyGate) (s : PagingSettings) (outside : (q : SystemCall) → q.Answer)
    (r : Registry) (c : Caller) (e : Errand) : ∃ visit : Visit,
      visit.Step g s r ((e.request g s c).carryOut.walk (Registry.answer outside) r).2.2 ∧
      visit.caller = c ∧ visit.errand = e ∧ .leave ∉ visit.course ∧
      visit.said = ((e.request g s c).carryOut.walk (Registry.answer outside) r).1 ∧
      visit.got = some ((e.request g s c).carryOut.walk (Registry.answer outside) r).2.1 := by
  have hlead := (e.request g s c).carryOut.leads_walk (Registry.answer outside) r
  obtain ⟨k, hsteps, hk, hstay⟩ := Process.steps_of_carryOut
    ((e.request g s c).carryOut.ends_walk (Registry.answer outside) r)
  refine ⟨⟨c, e, k, _⟩, ⟨hsteps, ?_⟩, rfl, rfl, hstay, hk, rfl⟩
  rw [said, hk]
  exact hlead.mono fun _ _ _ => Registry.step_of_answer

end Visit

end Gatehouse
