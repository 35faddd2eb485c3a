import Gatehouse.Proofs.Company.Coverage
import Gatehouse.Proofs.Company.Presence
import Gatehouse.Proofs.Company.Visits

/-!
# What events are about

A request tells the sinks of its own change, once it is made, and of nothing else. The event about a
company that was created or updated holds the row that the request has stored. The event about a
company that was deleted holds the copy that the gate has read for its check, and the registry does
not say what it removes: if another request has changed the row in between, the sinks hear of a row
that was not the one removed.

The vocabulary is `effect?`, what a step on the registry does to a row, `ActsOn`, the row on which a
request has acted, and `TellsRowsActedOn`, a gate whose events hold these rows, which not every gate
is.
-/

namespace Gatehouse

open Attempt

/-! ## Rows that steps act on -/

namespace RegistryCall

variable {r : Registry} {call : RegistryCall} {c row : Company} {id : Uuid}

/-- What a step does to a row, and the row: the one that is inserted, the one that is stored in place
of another, or the one that is taken out. -/
def effect? (r : Registry) : RegistryCall → Option (Change × Company)
  | insert c => if r.contains c.id then none else some (.created, c)
  | replace c => if r.contains c.id then some (.updated, c) else none
  | remove id => (r.find? id).map fun row => (.deleted, row)
  | find _ | list _ | count _ => none

theorem mutates_of_effect? {effect : Change × Company} (h : call.effect? r = some effect) :
    call.mutates = true := by
  cases call <;> first | rfl | cases h

theorem effect?_insert (h : ((insert row).perform r).1 = .ok c) :
    (insert row).effect? r = some (.created, c) := by
  rw [perform, Registry.insert] at h
  by_cases hin : r.contains row.id = true
  · simp [hin] at h
  · simp only [hin, Bool.false_eq_true, dite_false] at h
    cases h
    simp [effect?, hin]

theorem effect?_replace (h : ((replace row).perform r).1 = .ok c) :
    (replace row).effect? r = some (.updated, c) := by
  rw [perform, Registry.replace] at h
  by_cases hin : r.contains row.id = true
  · simp only [hin, if_true] at h
    cases h
    simp [effect?, hin]
  · simp [hin] at h

theorem effect?_remove (h : ((remove id).perform r).1 = .ok true) :
    ∃ row, r.find? id = some row ∧ (remove id).effect? r = some (.deleted, row) := by
  have hin : r.contains id = true := Except.ok.inj h
  rw [Registry.contains_eq_isSome] at hin
  obtain ⟨row, hrow⟩ := Option.isSome_iff_exists.mp hin
  exact ⟨row, hrow, by rw [effect?, hrow, Option.map_some]⟩

end RegistryCall

/-! ## What the service has done -/

namespace Service

variable {s : PagingSettings} {t : Trace systemSignature}

/-- A creation that succeeds has inserted a row. -/
theorem yields_create {d : Company.Draft} {c : Company} (h : Yields (create d) t c) :
    ∃ row, ⟨.registry (.insert row), .ok c⟩ ∈ t := by
  obtain ⟨_, t₁, -, t₂, rfl, h₂⟩ := yields_bind.mp h
  obtain ⟨now, t₃, -, t₄, rfl, h₄⟩ := yields_bind.mp h₂
  obtain ⟨id, t₅, -, t₆, rfl, h₆⟩ := yields_bind.mp h₄
  obtain ⟨x, t₇, hinsert, t₈, rfl, h₈⟩ := yields_bind.mp h₆
  obtain ⟨c', t₉, hstored, t₁₀, rfl, h₁₀⟩ := yields_bind.mp h₈
  obtain ⟨_, t₁₁, -, t₁₂, rfl, h₁₂⟩ := yields_bind.mp h₁₀
  obtain ⟨rfl, rfl⟩ := yields_pure.mp h₁₂
  obtain ⟨rfl, rfl⟩ := yields_orFail.mp hstored
  rw [yields_asking.mp hinsert]
  exact ⟨.ofDraft id now d, by simp⟩

/-- A deletion that succeeds has removed a row. -/
theorem yields_delete {id : Uuid} {u : Unit} (h : Yields (delete id) t u) :
    ⟨.registry (.remove id), .ok true⟩ ∈ t := by
  obtain ⟨x, t₁, hremove, t₂, rfl, h₂⟩ := yields_bind.mp h
  obtain ⟨found, t₃, hfound, t₄, rfl, h₄⟩ := yields_bind.mp h₂
  obtain ⟨rfl, rfl⟩ := yields_orFail.mp hfound
  rw [yields_asking.mp hremove]
  cases found with
  | true => simp
  | false => cases (yields_orFail.mp h₄).2

/-- Nobody tells the sinks but the gate. -/
theorem eq_send_of_answering {q : GateCall Company.resource} {ev : Event Company} {d : Delivery}
    (h : (answering s q).Begins (t ++ [⟨.send ev, d⟩])) : t = [] ∧ q = .send ev := by
  cases q with
  | store call =>
    have hspeechless : Speechless (.send ev) :=
      (speechless_store s call).of_begins h _ (List.mem_append_right t List.mem_cons_self)
    cases hspeechless
  | send e =>
    obtain ⟨rfl, he⟩ := Program.begins_call_concat h
    cases he
    exact ⟨rfl, rfl⟩
  | poll | verify _ | consult _ _ | log _ => cases (Program.begins_call_concat h).2

/-- A call on the store near the end of a run of the gate is made by a part of the run of the system. -/
theorem exists_store_part {t : Trace (gateSignature Company.resource)}
    {sc : StoreCall Company.resource} {x : sc.Answer} {entry : Log.Entry}
    {v : Trace systemSignature}
    (h : Program.Implements (answering s) (t ++ [⟨.store sc, x⟩, ⟨.log entry, ()⟩]) v) :
    ∃ v₁ v₂ u, v = v₁ ++ v₂ ∧ Program.Implements (answering s) t v₁ ∧ (store s sc).Ends u x ∧
      u ⊆ v₂ := by
  obtain ⟨v₁, v₂, rfl, ht, hlast⟩ := h.split
  cases hlast with
  | cons hu _ => exact ⟨v₁, _, _, rfl, ht, hu, List.subset_append_left _ _⟩

end Service

/-! ## What an errand tells -/

namespace Errand

variable {g : CompanyGate} {s : PagingSettings} {c : Caller} {e : Errand} {ev : Event Company}
  {d : Delivery} {v w : Trace systemSignature}

/-- An event, after the steps by which an errand has come to tell it. -/
inductive Tells : Errand → Trace systemSignature → Event Company → Prop where
  | created {d : Company.Draft} {row c : Company} {v : Trace systemSignature}
    (stored : ⟨.registry (.insert row), .ok c⟩ ∈ v) : Tells (.create (.ok d)) v ⟨.created, c⟩
  | updated {p : Company.Patch} {row c : Company} {v : Trace systemSignature}
    (stored : ⟨.registry (.replace row), .ok c⟩ ∈ v) : Tells (.update (.ok p)) v ⟨.updated, c⟩
  | deleted {id : Uuid} {seen : Company} {v₁ v₂ : Trace systemSignature}
    (read : ⟨.registry (.find id), .ok (some seen)⟩ ∈ v₁)
    (removed : ⟨.registry (.remove id), .ok true⟩ ∈ v₂) :
    Tells (.delete (.ok id)) (v₁ ++ v₂) ⟨.deleted, seen⟩

/-- An event of the system is one of the gate. -/
theorem exists_send (h : (e.request g s c).carryOut.Begins (v ++ ⟨.send ev, d⟩ :: w)) :
    ∃ t, Program.Implements (Service.answering s) t v ∧
      (e.atGate g c).carryOut.Begins (t ++ [⟨.send ev, d⟩]) := by
  rw [request, CompanyGate.withService, Request.carryOut_refine] at h
  obtain ⟨t, q, v₁, v₂, rfl, himp, hasked, hbegins⟩ := Program.exists_asked h
  obtain ⟨rfl, rfl⟩ := Service.eq_send_of_answering hbegins
  rw [List.append_nil]
  exact ⟨t, himp, hasked d⟩

/-- A reading request plans no task, so it tells nobody. -/
theorem not_sends_of_reads {t : Trace (gateSignature Company.resource)} (he : e.reads = true) :
    ¬(e.atGate g c).carryOut.Begins (t ++ [⟨.send ev, d⟩]) := by
  intro h
  obtain ⟨t₁, t₂, work, finish, hplan, -⟩ := Gate.exists_task_of_send (silent_atGate g c e) h
  obtain ⟨b, hb⟩ := answer_of_reads he hplan
  cases hb

/-- The first that an errand tells the sinks is the news of its own change, once it is made. -/
theorem tells_of_begins (h : (e.request g s c).carryOut.Begins (v ++ ⟨.send ev, d⟩ :: w)) :
    published v = [] ∧ Tells e v ev := by
  obtain ⟨t, himp, hgate⟩ := exists_send h
  rw [Service.published_of_implements himp]
  cases e with
  | create input =>
    have hcreate := Request.begins_carryOut_map.mp hgate
    rw [Gate.create_eq] at hcreate
    obtain ⟨hsends, sub, draft, _, t₁, x, reply, hpassed, hx, rfl, rfl⟩ :=
      Gate.told_of_begins hcreate
    obtain ⟨v₁, v₂, u, rfl, -, hu, hsub⟩ := Service.exists_store_part himp
    cases hpassed.decoded
    cases (hx : x = .ok reply)
    obtain ⟨row, hrow⟩ := Service.yields_create hu
    refine ⟨by rw [hsends]; rfl, ?_⟩
    exact .created (List.mem_append_right v₁ (hsub hrow))
  | update input =>
    have hupdate := Request.begins_carryOut_map.mp hgate
    rw [Gate.update_eq] at hupdate
    obtain ⟨hsends, sub, patch, _, t₁, x, reply, hpassed, hx, rfl, rfl⟩ :=
      Gate.told_of_begins hupdate
    obtain ⟨v₁, v₂, u, rfl, -, hu, hsub⟩ := Service.exists_store_part himp
    cases hpassed.decoded
    cases (hx : x = .ok reply)
    obtain ⟨current, now, hrow⟩ := Service.yields_update hu
    refine ⟨by rw [hsends]; rfl, ?_⟩
    exact .updated (List.mem_append_right v₁ (hsub hrow))
  | delete input =>
    have hdelete := Request.begins_carryOut_map.mp hgate
    rw [Gate.delete_eq] at hdelete
    obtain ⟨hsends, sub, id, seen, t₁, x, reply, hpassed, hx, rfl, rfl⟩ :=
      Gate.told_of_begins hdelete
    obtain ⟨v₁, v₂, u, rfl, ht₁, hu, hsub⟩ := Service.exists_store_part himp
    cases hpassed.decoded
    cases (hx : x = .ok reply)
    refine ⟨by rw [hsends]; rfl, ?_⟩
    -- The news of a deletion is the copy that was fetched for the check.
    obtain ⟨u', hfetch, hrun⟩ := hpassed.run
    rw [Gate.yields_fetch.mp hfetch] at hrun
    have hget : (⟨.store (.get id), .ok seen⟩ : (gateSignature Company.resource).Act) ∈ t₁ := by
      rw [hrun]
      simp [Gate.fetchedRun]
    obtain ⟨k, hk, hsub'⟩ := ht₁.exists_part hget
    exact .deleted (hsub' _ (Service.yields_get hk)) (hsub (Service.yields_delete hu))
  | get _ | list _ | authorize _ => exact absurd hgate (not_sends_of_reads rfl)

end Errand

namespace Traffic

open Errand

variable {g : CompanyGate} {s : PagingSettings} {r : Registry}
  {errands : Nat → Option (Caller × Errand)} {h h₁ h₂ : History} {i : Nat}
  {w : Traffic (Except Failure Result)} {id : Uuid} {change change' : Change} {row row' : Company}
  {ev : Event Company} {d : Delivery}

/-! ## Events and rows -/

/-- In a history a request has acted on a row. -/
def ActsOn (r : Registry) (h : History) (i : Nat) (change : Change) (row : Company) : Prop :=
  ∃ call x before after, h = before ++ (i, .act ⟨.registry call, x⟩) :: after ∧
    call.effect? (r.following before) = some (change, row)

/-- A request acts on one row at most. -/
theorem ActsOn.unique (hs : Steps (opening g s r errands) h w) (ha : ActsOn r h i change row)
    (hb : ActsOn r h i change' row') : change' = change ∧ row' = row := by
  obtain ⟨call, x, before, after, rfl, heffect⟩ := ha
  obtain ⟨call', x', before', after', heq, heffect'⟩ := hb
  obtain ⟨rfl, rfl⟩ := eq_of_mutation hs (RegistryCall.mutates_of_effect? heffect)
    (RegistryCall.mutates_of_effect? heffect') heq
  cases List.append_cancel_left heq
  rw [heffect] at heffect'
  cases heffect'
  exact ⟨rfl, rfl⟩

/-- Whoever tells the sinks has made the change. -/
theorem actsOn_of_told {call : RegistryCall} {x : call.Answer}
    (hs : Steps (opening g s r errands) h w) (hmem : (i, .act ⟨.registry call, x⟩) ∈ h)
    (heffect : ∀ k, (call.perform k).1 = x → call.effect? k = some (change, row)) :
    ActsOn r h i change row := by
  obtain ⟨before, after, rfl⟩ := List.append_of_mem hmem
  exact ⟨call, x, before, after, rfl, heffect _ hs.told.symm⟩

/-- What a request has read stays as it was up to its change, unless others touch it. -/
theorem find?_since_read {call : RegistryCall} {x : call.Answer} {found : Option Company}
    {before since : History}
    (hs : Steps (opening g s r errands) ((before ++ reads i id (.ok found) :: since) ++
      (i, .act ⟨.registry call, x⟩) :: h₂) w) (hm : call.mutates = true)
    (hothers : ∀ e ∈ since, e.1 ≠ i → e.2.touches id = false) :
    (r.following (before ++ reads i id (.ok found) :: since)).find? id = found := by
  have hown := harmless_of_mutation hs hm
  have hread : (r.following before).find? id = found := by
    rw [List.append_assoc] at hs
    exact find?_of_found hs
  rw [Registry.following_append, Registry.following_cons]
  refine (Registry.find?_following fun e he => ?_).trans hread
  obtain ⟨j, e⟩ := e
  by_cases hj : j = i
  · subst hj
    exact touches_of_harmless hown (List.mem_append_right _ (List.mem_cons_of_mem _ he))
  · exact hothers _ he hj

/-- **Events are about the change of their own request.** Whatever a request tells the sinks, it has
made the change before, and it has acted on one row only. Of a creation and of an update the sinks
hear with the row that was stored. Of a deletion they hear with the row as the gate has read it at an
earlier moment, and this is the row that was taken out if no other request has touched it in
between. This holds for any number of requests, whatever the order of their steps. -/
theorem event_of_own_change
    (hs : Steps (opening g s r errands) (h₁ ++ (i, .act ⟨.send ev, d⟩) :: h₂) w) :
    ∃ row, ActsOn r h₁ i ev.change row ∧
      (∀ change row', ActsOn r h₁ i change row' → change = ev.change ∧ row' = row) ∧
      (ev.change ≠ .deleted → ev.resource = row) ∧
      (ev.change = .deleted → ∃ c id before since after,
        errands i = some (c, .delete (.ok id)) ∧
        h₁ = before ++ reads i id (.ok (some ev.resource)) :: since ++
          removes i id (.ok true) :: after ∧
        (r.following before).find? id = some ev.resource ∧
        ((∀ e ∈ since, e.1 ≠ i → e.2.touches id = false) → ev.resource = row)) := by
  obtain ⟨c, e, hi, hbegins⟩ := begins_of_opening hs (List.mem_append_right _ List.mem_cons_self)
  rw [said_append, said_cons_self] at hbegins
  obtain ⟨-, htells⟩ := tells_of_begins hbegins
  obtain ⟨w₁, hs₁, -⟩ := hs.split
  generalize hsaid : said i h₁ = v at htells
  cases htells with
  | @created _ row c' _ stored =>
    have hacts : ActsOn r h₁ i .created c' :=
      actsOn_of_told hs₁ (mem_said.mp (hsaid ▸ stored)) fun k => RegistryCall.effect?_insert
    exact ⟨c', hacts, fun _ _ h => hacts.unique hs₁ h, fun _ => rfl, fun h => nomatch h⟩
  | @updated _ row c' _ stored =>
    have hacts : ActsOn r h₁ i .updated c' :=
      actsOn_of_told hs₁ (mem_said.mp (hsaid ▸ stored)) fun k => RegistryCall.effect?_replace
    exact ⟨c', hacts, fun _ _ h => hacts.unique hs₁ h, fun _ => rfl, fun h => nomatch h⟩
  | @deleted id seen v₁ v₂ read removed =>
    obtain ⟨u₁, u₂, rfl⟩ := List.append_of_mem read
    obtain ⟨u₃, u₄, rfl⟩ := List.append_of_mem removed
    rw [List.append_assoc, List.cons_append] at hsaid
    obtain ⟨before, rest, rfl, -, hrest⟩ := exists_split_of_said hsaid
    rw [← List.append_assoc] at hrest
    obtain ⟨since, after, rfl, -, -⟩ := exists_split_of_said hrest
    have hcut : before ++ reads i id (.ok (some seen)) :: (since ++ removes i id (.ok true) :: after) =
        (before ++ reads i id (.ok (some seen)) :: since) ++ removes i id (.ok true) :: after := by
      simp
    have hread : (r.following before).find? id = some seen := find?_of_found hs₁
    rw [hcut] at hs₁
    obtain ⟨row, hrow, heffect⟩ := RegistryCall.effect?_remove hs₁.told.symm
    have hacts : ActsOn r _ i .deleted row := ⟨_, _, _, _, hcut, heffect⟩
    refine ⟨row, hacts, fun _ _ h => hacts.unique (hcut ▸ hs₁) h, fun h => absurd rfl h, fun _ => ?_⟩
    refine ⟨c, id, before, since, after, hi, hcut, hread, fun hothers => ?_⟩
    have hkept := find?_since_read hs₁ rfl hothers
    exact Option.some.inj (hkept.symm.trans hrow)

/-- Whether every event of a gate holds the row on which its request has acted. -/
def TellsRowsActedOn (g : CompanyGate) : Prop :=
  ∀ (s : PagingSettings) (r : Registry) (errands : Nat → Option (Caller × Errand)) (h₁ h₂ : History)
    (w : Traffic (Except Failure Result)) (i : Nat) (ev : Event Company) (d : Delivery),
    Steps (opening g s r errands) (h₁ ++ (i, .act ⟨.send ev, d⟩) :: h₂) w →
    ActsOn r h₁ i ev.change ev.resource

/-! ## A stale copy -/

/-- The deletion goes as far as its task, then the update registers the company. -/
def outpaced : History × Traffic (Except Failure Result) :=
  exec calm (opening unguarded .standard (.sole plainCompany) race)
    (List.replicate 17 0 ++ List.replicate 20 1)

/-- The task removes the row and comes to its news. -/
def removal : History × Traffic (Except Failure Result) := exec calm outpaced.2 (List.replicate 3 0)

/-- The sinks are told of the company as it was before it was registered. -/
theorem steps_outpaced : ∃ w, Steps (opening unguarded .standard (.sole plainCompany) race)
    ((outpaced.1 ++ removal.1) ++ (0, .act ⟨.send ⟨.deleted, plainCompany⟩, .ok ()⟩) :: []) w :=
  ⟨_, ((steps_exec calm _ _).append (steps_exec calm outpaced.2 _)).append
    (steps_exec calm removal.2 [0])⟩

/-- The row that is removed is the registered company. -/
theorem actsOn_outpaced : ActsOn (.sole plainCompany) (outpaced.1 ++ removal.1) 0 .deleted
    { plainCompany with registered := true } :=
  ⟨.remove plainCompany.id, .ok true, outpaced.1, removal.1.tail, rfl, rfl⟩

/-- The deletion has removed the registered company and told of the one that it had read. -/
theorem event_of_own_change_outpaced : ∃ id before since after,
    outpaced.1 ++ removal.1 = before ++ reads 0 id (.ok (some plainCompany)) :: since ++
      removes 0 id (.ok true) :: after ∧
    ∀ change row, ActsOn (.sole plainCompany) (outpaced.1 ++ removal.1) 0 change row →
      change = .deleted ∧ row = { plainCompany with registered := true } := by
  obtain ⟨w, hs⟩ := steps_outpaced
  obtain ⟨row, hacts, hunique, -, hdeleted⟩ := event_of_own_change hs
  obtain ⟨-, hrow⟩ := hunique _ _ actsOn_outpaced
  obtain ⟨_, id, before, since, after, -, heq, -⟩ := hdeleted rfl
  refine ⟨id, before, since, after, heq, fun change row' h => ?_⟩
  rw [hrow]
  exact hunique change row' h

/-- A company is deleted after another request has registered it, and the event does not hold the row
that was removed. -/
theorem event_holds_other_row : ¬TellsRowsActedOn unguarded := by
  intro htells
  obtain ⟨w, hs⟩ := steps_outpaced
  obtain ⟨w', hs', -⟩ := hs.split
  have hstale := htells _ _ _ _ _ _ _ _ _ hs
  have hrow : { plainCompany with registered := true } = plainCompany :=
    (hstale.unique hs' actsOn_outpaced).2
  exact absurd (congrArg Company.registered hrow) (by decide)

end Traffic

end Gatehouse
