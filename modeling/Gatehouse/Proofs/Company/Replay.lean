import Gatehouse.Proofs.Company.Visits

/-!
# The events mirror the registry

Whoever knows what was stored at first and then hears of every event knows what is stored: an event
holds the very company that the store has written, or the one that was there before it was deleted.
So a request that tells the sinks nothing has left the registry as it was, and requests that fail, or
only read, tell the sinks nothing.
-/

namespace Gatehouse

open Attempt

/-- A ledger after the news of an event. -/
def Event.record (m : Ledger) : Event Company → Ledger
  | ⟨.created, c⟩ | ⟨.updated, c⟩ => Function.update m c.id (some c)
  | ⟨.deleted, c⟩ => Function.update m c.id none

/-- A ledger after the news of events, one after the other. -/
def replay (m : Ledger) (events : List (Event Company)) : Ledger := events.foldl Event.record m

theorem replay_append (m : Ledger) (es fs : List (Event Company)) :
    replay m (es ++ fs) = replay (replay m es) fs :=
  List.foldl_append ..

namespace Errand

variable {g : CompanyGate} {s : PagingSettings} {c : Caller} {e : Errand}
  {v : Trace systemSignature} {r r' : Registry} {x : Except Failure Result}

section Mutations

variable {ι σ β : Type} {m : Gate.Mutation Company.resource ι σ β} {input : Except Failure ι}
  {op : Operation} {f : β → Result}

/-- If a call on the store changes nothing when it is refused, and what its event tells when it is
not, then so does the request. -/
theorem mirrored_of_mutation (hm : m.Plain) (hreads : e.reads = false)
    (hfinish : ∀ entity, ∃ y, m.finish (.ok entity) = .ok y)
    (he : e.atGate g c = (Gate.request (m.checks g c op input)).map fun y => y.map f)
    (h : (e.request g s c).carryOut.Ends v x) (hv : Leads Registry.Step r v r')
    (hstore : ∀ i seen t u, ∀ y : (m.call i).Answer, Yields (m.see i) t seen →
      (∀ a ∈ t, GateStep s v r a r) → (Service.store s (m.call i)).Ends u y →
      Leads Registry.Step r u r' → (∃ e, m.answer_eq i ▸ y = Except.error e ∧ r' = r) ∨
        ∃ reply, m.answer_eq i ▸ y = Except.ok reply ∧
          Event.record r.find? ⟨m.change, m.news seen reply⟩ = r'.find?) :
    (r' = r ∧ published v = []) ∨
      ∃ event result, published v = [event] ∧ event.record r.find? = r'.find? ∧
        x = .ok result ∧ e.reads = false := by
  rcases stored_of_request hm he h hv with
    ⟨hr, hnews, -⟩ | ⟨i, seen, t, y, hseen, hread, ⟨u, hu, -, hlead⟩, hy⟩
  · exact .inl ⟨hr, hnews⟩
  rcases hstore i seen t u y hseen hread hu hlead with ⟨_, hrefused, hr⟩ | ⟨reply, hreply, hrecord⟩
  · rcases hy with ⟨_, -, hnews, -⟩ | ⟨_, haccepted, -⟩
    · exact .inl ⟨hr, hnews⟩
    · rw [hrefused] at haccepted
      cases haccepted
  · rcases hy with ⟨_, hrefused, -⟩ | ⟨_, haccepted, hnews, hx⟩
    · rw [hreply] at hrefused
      cases hrefused
    · rw [hreply] at haccepted
      cases haccepted
      obtain ⟨y, hfinished⟩ := hfinish (m.news seen reply)
      refine .inr ⟨_, f y, hnews, hrecord, ?_, hreads⟩
      rw [hx, hfinished]
      rfl

end Mutations

/-- A request that is over has left everything as it was, or it has told the sinks of the one change
that it has made, and its caller of its success. -/
theorem mirrored (hr : r.Keyed) (h : (e.request g s c).carryOut.Ends v x)
    (hv : Leads Registry.Step r v r') : (r' = r ∧ published v = []) ∨
      ∃ event result, published v = [event] ∧ event.record r.find? = r'.find? ∧
        x = .ok result ∧ e.reads = false := by
  cases e with
  | get _ | list _ | authorize _ => exact .inl (still_of_reads rfl h hv)
  | create input =>
    refine mirrored_of_mutation Gate.plain_creation rfl (fun _ => ⟨_, rfl⟩) rfl h hv ?_
    intro d seen t u y _ _ hu hlead
    refine (Service.written_of_create hu hlead).imp_right ?_
    intro ⟨row, hy, hrow⟩
    exact ⟨row, hy, hrow.symm⟩
  | update input =>
    refine mirrored_of_mutation Gate.plain_alteration rfl (fun _ => ⟨_, rfl⟩) rfl h hv ?_
    intro p seen t u y _ _ hu hlead
    refine (Service.written_of_update hu hlead).imp_right ?_
    intro ⟨row, hy, hrow⟩
    exact ⟨row, hy, hrow.symm⟩
  | delete input =>
    refine mirrored_of_mutation Gate.plain_removal rfl (fun _ => ⟨_, rfl⟩) rfl h hv ?_
    intro id seen t u y hseen hread hu hlead
    refine (Service.erased_of_delete hu hlead).imp_right ?_
    intro ⟨hy, hrow⟩
    -- The company of the event was read under the identifier, so it is stored under its own one.
    have hrun : t = Gate.fetchedRun id seen := Gate.yields_fetch.mp hseen
    have hfound : GateStep s v r ⟨.store (.get id), .ok seen⟩ r :=
      hread _ (by simp [hrun, Gate.fetchedRun])
    have hid : seen.id = id := hr id seen (find?_of_gateStep hfound)
    refine ⟨(), hy, ?_⟩
    rw [hrow, ← hid]
    rfl

end Errand

namespace Visit

/-- The events that the sinks are told in a visit. -/
def events (visit : Visit) : List (Event Company) := published visit.said

variable {g : CompanyGate} {s : PagingSettings} {r r' : Registry} {visit : Visit}

theorem Step.mirrored (h : visit.Step g s r r') (hr : r.Keyed) :
    replay r.find? visit.events = r'.find? ∧ (visit.events = [] → r' = r) ∧
      ((∃ f, visit.got = some (.error f)) ∨ visit.errand.reads = true → visit.events = []) := by
  rcases Process.carried_of_steps h.course with ⟨hbegins, -, -⟩ | ⟨x, hend, -, hgot⟩
  · obtain ⟨rfl, hnews⟩ := Errand.still_of_planning hbegins h.registry
    exact ⟨by rw [events, said, hnews]; rfl, fun _ => rfl, fun _ => hnews⟩
  rcases Errand.mirrored hr hend h.registry with ⟨rfl, hnews⟩ | ⟨event, result, hnews, hrec, rfl, he⟩
  · exact ⟨by rw [events, said, hnews]; rfl, fun _ => rfl, fun _ => hnews⟩
  · refine ⟨by rw [events, said, hnews]; exact hrec, fun hnone => ?_, ?_⟩
    · rw [events, said, hnews] at hnone
      cases hnone
    · rintro (⟨f, hf⟩ | hreads)
      · cases hgot _ hf
      · rw [he] at hreads
        cases hreads

end Visit

/-- **The events mirror the registry.** Requests of any kind, one after the other, from any callers and
with any input, in front of a registry with every company under its own identifier: to replay the
events on what was stored at first gives what is stored in the end. In particular a request without
an event leaves the registry exactly as it was, and a request that only reads, or is answered with a
failure, has no event. -/
theorem events_mirror_registry {g : CompanyGate} {s : PagingSettings} {r r' : Registry}
    {visits : List Visit} (hr : r.Keyed) (h : Leads (Visit.Step g s) r visits r') :
    replay r.find? (visits.flatMap Visit.events) = r'.find? ∧
      Leads (fun r visit r' => visit.Step g s r r' ∧ (visit.events = [] → r' = r) ∧
        ((∃ f, visit.got = some (.error f)) ∨ visit.errand.reads = true → visit.events = []))
        r visits r' := by
  induction h with
  | nil r => exact ⟨rfl, .nil r⟩
  | @cons r r₁ r' visit visits hstep _ ih =>
    obtain ⟨hfirst, hstill, hnone⟩ := hstep.mirrored hr
    obtain ⟨hrest, hlead⟩ := ih (hstep.keyed hr)
    refine ⟨?_, .cons ⟨hstep, hstill, hnone⟩ hlead⟩
    rw [List.flatMap_cons, replay_append, hfirst, hrest]

/-- A company is registered and then deleted, and both events tell what it was like. -/
theorem events_mirror_registry_deleted : ∃ visits r',
    Leads (Visit.Step Traffic.unguarded .standard) (Registry.sole Traffic.plainCompany) visits r' ∧
    visits.flatMap Visit.events = [⟨.updated, { Traffic.plainCompany with registered := true }⟩,
      ⟨.deleted, { Traffic.plainCompany with registered := true }⟩] ∧
    r'.find? Traffic.plainCompany.id = none := by
  obtain ⟨first, hfirst, -, -, -, hsaid, -⟩ := Visit.exists_visit Traffic.unguarded .standard
    Traffic.calm (Registry.sole Traffic.plainCompany) .anonymous (.update (.ok Traffic.registering))
  obtain ⟨second, hsecond, -, -, -, hsaid', -⟩ := Visit.exists_visit Traffic.unguarded .standard
    Traffic.calm _ .anonymous (.delete (.ok Traffic.plainCompany.id))
  have hlead := Leads.cons hfirst (Leads.cons hsecond (.nil _))
  have hnews : [first, second].flatMap Visit.events =
      [⟨.updated, { Traffic.plainCompany with registered := true }⟩,
        ⟨.deleted, { Traffic.plainCompany with registered := true }⟩] := by
    simp only [List.flatMap_cons, List.flatMap_nil, Visit.events, hsaid, hsaid']
    rfl
  obtain ⟨hmirror, -⟩ := events_mirror_registry (Registry.keyed_sole Traffic.plainCompany) hlead
  refine ⟨_, _, hlead, hnews, ?_⟩
  rw [← hmirror, hnews]
  rfl

end Gatehouse
