import Gatehouse.Proofs.Company.Backing
import Gatehouse.Proofs.Company.Traffic
import Gatehouse.Proofs.Gate.News

/-!
# What requests do to the registry

A request to the registry of companies asks for at most one step that changes the registry, and
before it nothing but steps that do not. If this step overwrites or removes a row, the request is one
to update or to delete just this row, and its caller has been found out and has passed both checks,
the second on a company that was read under the same key.
-/

namespace Gatehouse

open Attempt

/-- Whether a question may change the registry. -/
def SystemCall.mutates : SystemCall → Bool
  | registry call => call.mutates
  | _ => false

/-- Questions that leave the registry as it is. -/
def Harmless (q : SystemCall) : Prop := q.mutates = false

/-- A program that asks for a change of the registry asks for more than what leaves it as it is. -/
theorem not_harmless_of_begins {α : Type} {p : Program systemSignature α}
    {t : Trace systemSignature} {call : RegistryCall} {x : call.Answer}
    (h : p.Begins (t ++ [⟨.registry call, x⟩])) (hm : call.mutates = true) :
    ¬p.AsksOnly Harmless := by
  intro hp
  have hcall : call.mutates = false :=
    hp.of_begins h _ (List.mem_append_right _ List.mem_cons_self)
  simp [hm] at hcall

/-! ## Runs of the service -/

namespace Service

variable {α : Type} {t : Trace systemSignature}

@[simp] theorem yields_asking {q : SystemCall} {x : q.Answer} :
    Yields (asking q) t x ↔ t = [⟨q, x⟩] := by
  constructor
  · rintro ⟨y, u, rfl, rfl, h⟩
    cases h
    rfl
  · rintro rfl
    exact ⟨x, [], rfl, rfl, rfl⟩

@[simp] theorem yields_orFail {x : Except RegistryError α} {a : α} :
    Yields (orFail x) t a ↔ t = [] ∧ x = .ok a := by
  refine and_congr_right fun _ => ?_
  cases x <;> simp [Except.mapError]

theorem begins_asking_concat {q : SystemCall} {a : systemSignature.Act}
    (h : Program.Begins (asking q).run (t ++ [a])) : t = [] ∧ a.question = q := by
  rcases h with h | ⟨_, u, h, rfl⟩
  · exact absurd h (by simp)
  · obtain ⟨rfl, ha⟩ := (List.append_eq_singleton_iff.mp h).resolve_right (by simp)
    cases ha
    exact ⟨rfl, rfl⟩

theorem not_begins_orFail_concat {x : Except RegistryError α} {a : systemSignature.Act} :
    ¬Program.Begins (orFail x).run (t ++ [a]) := by
  intro h
  exact absurd h (List.append_ne_nil_of_right_ne_nil t (List.cons_ne_nil a []))

theorem harmless_asking {q : SystemCall} (h : q.mutates = false) :
    AsksOnly Harmless (asking q) :=
  ⟨h, fun _ => trivial⟩

theorem harmless_orFail {x : Except RegistryError α} : AsksOnly Harmless (orFail x) := trivial

theorem yields_get {id : Uuid} {c : Company} (h : Yields (get id) t c) :
    ⟨.registry (.find id), .ok (some c)⟩ ∈ t := by
  obtain ⟨_, t₁, -, t₂, rfl, h₂⟩ := yields_bind.mp h
  obtain ⟨x, t₃, h₃, t₄, rfl, h₄⟩ := yields_bind.mp h₂
  obtain ⟨found, t₅, h₅, t₆, rfl, h₆⟩ := yields_bind.mp h₄
  obtain ⟨rfl, rfl⟩ := yields_orFail.mp h₅
  rw [yields_asking.mp h₃]
  cases found with
  | some d =>
    obtain ⟨rfl, rfl⟩ := yields_pure.mp h₆
    simp
  | none => cases (yields_orFail.mp h₆).2

theorem harmless_get (id : Uuid) : AsksOnly Harmless (get id) := by
  refine (harmless_asking rfl).bind fun _ => (harmless_asking rfl).bind fun x => ?_
  refine harmless_orFail.bind fun found => ?_
  cases found with
  | some c => exact asksOnly_pure
  | none => exact harmless_orFail

theorem harmless_list (s : PagingSettings) (f : Company.Filter) : AsksOnly Harmless (list s f) := by
  refine harmless_orFail.bind fun page => (harmless_asking rfl).bind fun x => ?_
  exact harmless_orFail.bind fun cs => (harmless_asking rfl).bind fun _ => asksOnly_pure

theorem harmless_count (f : Company.Filter) : AsksOnly Harmless (count f) :=
  (harmless_asking rfl).bind fun _ => harmless_orFail

theorem harmless_answering {s : PagingSettings} {q : GateCall Company.resource}
    (h : q.mutates = false) : (answering s q).AsksOnly Harmless := by
  cases q with
  | store call =>
    cases call with
    | get id => exact harmless_get id
    | list f => exact harmless_list s f
    | count f => exact harmless_count f
    | create d => cases h
    | update p => cases h
    | delete id => cases h
  | poll => exact ⟨rfl, fun _ => trivial⟩
  | verify token => exact ⟨rfl, fun _ => trivial⟩
  | consult l marks => exact ⟨rfl, fun _ => trivial⟩
  | send event => exact ⟨rfl, fun _ => trivial⟩
  | log entry => exact ⟨rfl, fun _ => trivial⟩

/-- The one step by which a creation changes the registry is to insert a row. -/
theorem begins_create {d : Company.Draft} {call : RegistryCall} {x : call.Answer}
    (h : Program.Begins (create d).run (t ++ [⟨.registry call, x⟩])) :
    ∃ now id, t = [⟨.now, now⟩, ⟨.freshId, id⟩] ∧ call = .insert (.ofDraft id now d) := by
  rcases begins_bind_concat h with hvalid | ⟨_, t₁, t₂, hvalid, rfl, h₂⟩
  · exact absurd hvalid not_begins_orFail_concat
  obtain ⟨rfl, -⟩ := yields_orFail.mp hvalid
  rcases begins_bind_concat h₂ with hnow | ⟨now, t₃, t₄, hnow, rfl, h₄⟩
  · cases (begins_asking_concat hnow).2
  obtain rfl := yields_asking.mp hnow
  rcases begins_bind_concat h₄ with hid | ⟨id, t₅, t₆, hid, rfl, h₆⟩
  · cases (begins_asking_concat hid).2
  obtain rfl := yields_asking.mp hid
  rcases begins_bind_concat h₆ with hinsert | ⟨y, t₇, t₈, -, rfl, h₈⟩
  · obtain ⟨rfl, hcall⟩ := begins_asking_concat hinsert
    cases hcall
    exact ⟨now, id, rfl, rfl⟩
  -- After the row is inserted there is only an entry to write to the log.
  rcases begins_bind_concat h₈ with hstored | ⟨c, t₉, t₁₀, -, rfl, h₁₀⟩
  · exact absurd hstored not_begins_orFail_concat
  rcases begins_bind_concat h₁₀ with hsay | ⟨_, t₁₁, t₁₂, -, rfl, h₁₂⟩
  · cases (begins_asking_concat hsay).2
  · exact absurd h₁₂ (List.append_ne_nil_of_right_ne_nil _ (List.cons_ne_nil _ _))

/-- The run of an update up to the step that overwrites the row. -/
def rereadRun (p : Company.Patch) (current : Company) (now : Timestamp) : Trace systemSignature :=
  [⟨.registry (.find p.id), .ok (some current)⟩, ⟨.now, now⟩]

/-- What an update stores in place of a row. -/
def overwritten (p : Company.Patch) (current : Company) (now : Timestamp) : Company :=
  { p.applyTo current with updatedAt := now }

/-- The one step by which an update changes the registry is to overwrite the row that it has read. -/
theorem begins_update {p : Company.Patch} {call : RegistryCall} {x : call.Answer}
    (h : Program.Begins (update p).run (t ++ [⟨.registry call, x⟩])) (hm : call.mutates = true) :
    ∃ current now, t = rereadRun p current now ∧ call = .replace (overwritten p current now) := by
  rcases begins_bind_concat h with hvalid | ⟨_, t₁, t₂, hvalid, rfl, h₂⟩
  · exact absurd hvalid not_begins_orFail_concat
  obtain ⟨rfl, -⟩ := yields_orFail.mp hvalid
  rcases begins_bind_concat h₂ with hfind | ⟨y, t₃, t₄, hfind, rfl, h₄⟩
  · cases (begins_asking_concat hfind).2
    cases hm
  obtain rfl := yields_asking.mp hfind
  rcases begins_bind_concat h₄ with hfound | ⟨found, t₅, t₆, hfound, rfl, h₆⟩
  · exact absurd hfound not_begins_orFail_concat
  obtain ⟨rfl, rfl⟩ := yields_orFail.mp hfound
  cases found with
  | none => exact absurd h₆ not_begins_orFail_concat
  | some current =>
    rcases begins_bind_concat h₆ with hnow | ⟨now, t₇, t₈, hnow, rfl, h₈⟩
    · cases (begins_asking_concat hnow).2
    obtain rfl := yields_asking.mp hnow
    rcases begins_bind_concat h₈ with hreplace | ⟨y, t₉, t₁₀, hreplace, rfl, h₁₀⟩
    · obtain ⟨rfl, hcall⟩ := begins_asking_concat hreplace
      cases hcall
      exact ⟨current, now, rfl, rfl⟩
    -- After the row is overwritten there is only an entry to write to the log.
    rcases begins_bind_concat h₁₀ with hstored | ⟨c, t₁₁, t₁₂, -, rfl, h₁₂⟩
    · exact absurd hstored not_begins_orFail_concat
    rcases begins_bind_concat h₁₂ with hsay | ⟨_, t₁₃, t₁₄, -, rfl, h₁₄⟩
    · cases (begins_asking_concat hsay).2
    · exact absurd h₁₄ (List.append_ne_nil_of_right_ne_nil _ (List.cons_ne_nil _ _))

/-- An update that succeeds has overwritten the row that it has read. -/
theorem yields_update {p : Company.Patch} {c : Company} (h : Yields (update p) t c) :
    ∃ current now, ⟨.registry (.replace (overwritten p current now)), .ok c⟩ ∈ t := by
  obtain ⟨_, t₁, -, t₂, rfl, h₂⟩ := yields_bind.mp h
  obtain ⟨x, t₃, -, t₄, rfl, h₄⟩ := yields_bind.mp h₂
  obtain ⟨found, t₅, -, t₆, rfl, h₆⟩ := yields_bind.mp h₄
  cases found with
  | none => cases (yields_orFail.mp h₆).2
  | some current =>
    obtain ⟨now, t₇, -, t₈, rfl, h₈⟩ := yields_bind.mp h₆
    obtain ⟨y, t₉, hreplace, t₁₀, rfl, h₁₀⟩ := yields_bind.mp h₈
    obtain ⟨d, t₁₁, hstored, t₁₂, rfl, h₁₂⟩ := yields_bind.mp h₁₀
    obtain ⟨_, t₁₃, -, t₁₄, rfl, h₁₄⟩ := yields_bind.mp h₁₂
    obtain ⟨rfl, rfl⟩ := yields_pure.mp h₁₄
    obtain ⟨rfl, rfl⟩ := yields_orFail.mp hstored
    rw [yields_asking.mp hreplace]
    exact ⟨current, now, by simp [overwritten]⟩

/-- The one step by which a deletion changes the registry is to remove the row. -/
theorem begins_delete {id : Uuid} {call : RegistryCall} {x : call.Answer}
    (h : Program.Begins (delete id).run (t ++ [⟨.registry call, x⟩])) :
    t = [] ∧ call = .remove id := by
  rcases begins_bind_concat h with hremove | ⟨y, t₁, t₂, -, rfl, h₂⟩
  · obtain ⟨rfl, hcall⟩ := begins_asking_concat hremove
    cases hcall
    exact ⟨rfl, rfl⟩
  rcases begins_bind_concat h₂ with hfound | ⟨found, t₃, t₄, -, rfl, h₄⟩
  · exact absurd hfound not_begins_orFail_concat
  cases found with
  | true => cases (begins_asking_concat h₄).2
  | false => exact absurd h₄ not_begins_orFail_concat

/-- What the store asks before it changes the registry, and how it changes it. -/
theorem begins_store {s : PagingSettings} {sc : StoreCall Company.resource} {call : RegistryCall}
    {x : call.Answer} (h : (store s sc).Begins (t ++ [⟨.registry call, x⟩]))
    (hm : call.mutates = true) : sc.mutates = true ∧ (∀ act ∈ t, Harmless act.question) ∧
      ((∃ d row, sc = .create d ∧ call = .insert row) ∨
        (∃ p current now, sc = .update p ∧ t = rereadRun p current now ∧
          call = .replace (overwritten p current now)) ∨
        ∃ id, sc = .delete id ∧ t = [] ∧ call = .remove id) := by
  have hreads : ¬(store s sc).AsksOnly Harmless := not_harmless_of_begins h hm
  cases sc with
  | create d =>
    obtain ⟨now, id, rfl, rfl⟩ := begins_create h
    exact ⟨rfl, by simp [Harmless, SystemCall.mutates], .inl ⟨d, _, rfl, rfl⟩⟩
  | update p =>
    obtain ⟨current, now, rfl, rfl⟩ := begins_update h hm
    refine ⟨rfl, ?_, .inr (.inl ⟨p, current, now, rfl, rfl, rfl⟩)⟩
    simp [rereadRun, Harmless, SystemCall.mutates, RegistryCall.mutates]
  | delete id =>
    obtain ⟨rfl, rfl⟩ := begins_delete h
    exact ⟨rfl, by simp, .inr (.inr ⟨id, rfl, rfl, rfl⟩)⟩
  | get id => exact absurd (harmless_get id) hreads
  | list f => exact absurd (harmless_list s f) hreads
  | count f => exact absurd (harmless_count f) hreads

end Service

/-! ## Errands -/

/-- A request to the registry of companies, with its input. -/
inductive Errand where
  | create (input : Except Failure Company.Draft)
  | get (input : Except Failure Uuid)
  | list (input : Except Failure Company.Filter)
  | update (input : Except Failure Company.Patch)
  | delete (input : Except Failure Uuid)
  | authorize (op : Operation)

namespace Errand

/-- What a request ends with that succeeds. -/
inductive Result where
  | company (c : Company)
  | listing (l : Listing Company)
  | deleted
  | caller (s : Option Subject)

/-- The request at the gate. -/
def atGate (g : CompanyGate) (c : Caller) :
    Errand → Request (gateSignature Company.resource) Company (Except Failure Result)
  | create input => (g.create c input).map fun x => x.map .company
  | get input => (g.get c input).map fun x => x.map .company
  | list input => (g.list c input).map fun x => x.map .listing
  | update input => (g.update c input).map fun x => x.map .company
  | delete input => (g.delete c input).map fun x => x.map fun _ => .deleted
  | authorize op => (g.authorize c op).map fun x => x.map .caller

/-- The request with the service behind the gate. -/
def request (g : CompanyGate) (s : PagingSettings) (c : Caller) (e : Errand) :
    CompanyRequest (Except Failure Result) :=
  CompanyGate.withService s (e.atGate g c)

section Gate

open Gate

variable {g : CompanyGate} {c : Caller} {e : Errand} {t : Trace (gateSignature Company.resource)}

/-- If the only change of a run is its last call, it is the change that was cleared. -/
theorem cleared_of_last {op : Operation} {target : Target Company.resource}
    {seen : Trace (gateSignature Company.resource)} {call call' : StoreCall Company.resource}
    {x : call.Answer} (hm : call.mutates = true)
    (h : ClearedChange g c op target seen call' (t ++ [⟨.store call, x⟩])) :
    call = call' ∧ changes t = [] ∧ ∃ s, Cleared g c op s target seen t := by
  obtain ⟨s, before, y, after, heq, hbefore, hafter, hcleared⟩ := h
  rcases List.eq_nil_or_concat after with rfl | ⟨u, b, rfl⟩
  · obtain ⟨rfl, hb⟩ := List.append_inj' heq rfl
    cases hb
    exact ⟨rfl, hbefore, s, hcleared⟩
  · -- The last call changes the store, so nothing without a change comes after the change.
    rw [List.concat_eq_append, ← List.cons_append, ← List.append_assoc] at heq
    obtain ⟨-, hb⟩ := List.append_inj' heq rfl
    cases hb
    rw [List.concat_eq_append, changes_append] at hafter
    have hlast : GateCall.mutates (.store call) = true := hm
    simp [changes, hlast] at hafter

/-- A call by which an errand changes the store is its first such call; to change or remove an entity
it must be an errand to do so, for a caller who was cleared. -/
theorem cleared_of_call {call : StoreCall Company.resource} {x : call.Answer}
    (hm : call.mutates = true)
    (h : (e.atGate g c).carryOut.Begins (t ++ [⟨.store call, x⟩])) : changes t = [] ∧
      ((∃ d, call = .create d) ∨
        (∃ p s seen, e = .update (.ok p) ∧ call = .update p ∧
          Cleared g c .update s (.entity seen) [⟨.store (.get p.id), .ok seen⟩] t) ∨
        ∃ id s seen, e = .delete (.ok id) ∧ call = .delete id ∧
          Cleared g c .delete s (.entity seen) [⟨.store (.get id), .ok seen⟩] t) := by
  have hne : changes (t ++ [⟨.store call, x⟩]) ≠ [] := by
    have hlast : GateCall.mutates (.store call) = true := hm
    simp [changes, hlast]
  cases e with
  | create input =>
    obtain ⟨d, -, hchange⟩ := cleared_create g c (Request.begins_carryOut_map.mp h) hne
    obtain ⟨rfl, ht, -⟩ := cleared_of_last hm hchange
    exact ⟨ht, .inl ⟨d, rfl⟩⟩
  | update input =>
    obtain ⟨p, seen, rfl, hchange⟩ := cleared_update g c (Request.begins_carryOut_map.mp h) hne
    obtain ⟨rfl, ht, s, hcleared⟩ := cleared_of_last hm hchange
    exact ⟨ht, .inr (.inl ⟨p, s, seen, rfl, rfl, hcleared⟩)⟩
  | delete input =>
    obtain ⟨id, seen, rfl, hchange⟩ := cleared_delete g c (Request.begins_carryOut_map.mp h) hne
    obtain ⟨rfl, ht, s, hcleared⟩ := cleared_of_last hm hchange
    exact ⟨ht, .inr (.inr ⟨id, s, seen, rfl, rfl, hcleared⟩)⟩
  | get input => exact absurd (changes_get g c (Request.begins_carryOut_map.mp h)) hne
  | list input => exact absurd (changes_list g c (Request.begins_carryOut_map.mp h)) hne
  | authorize op => exact absurd (changes_authorize g c (Request.begins_carryOut_map.mp h)) hne

end Gate

/-! ## Steps that change the registry -/

/-- In a run of the system a caller has been found out and has passed both checks of an operation,
the second on a company that was read under a key. -/
structure Vetted (g : CompanyGate) (c : Caller) (op : Operation) (id : Uuid) (s : Option Subject)
    (seen : Company) (v : Trace systemSignature) : Prop where
  coarse : g.evaluator.operations.allows op s ()
  fine : g.evaluator.objects.allows op s (.entity seen)
  verified : ⟨.verify c.token, .ok s⟩ ∈ v
  read : ⟨.registry (.find id), .ok (some seen)⟩ ∈ v

variable {g : CompanyGate} {s : PagingSettings} {c : Caller} {e : Errand}
  {v w : Trace systemSignature}

theorem vetted_of_implements {op : Operation} {id : Uuid} {sub : Option Subject} {seen : Company}
    {t : Trace (gateSignature Company.resource)} {v : Trace systemSignature}
    (himp : Program.Implements (Service.answering s) t v)
    (h : Gate.Cleared g c op sub (.entity seen) [⟨.store (.get id), .ok seen⟩] t) :
    Vetted g c op id sub seen v where
  coarse := h.coarse
  fine := h.fine
  verified := by
    obtain ⟨u, hu, hsub⟩ := himp.exists_part (h.order.subset (by simp) :
      (⟨.verify c.token, .ok sub⟩ : (gateSignature Company.resource).Act) ∈ t)
    obtain ⟨x, u', rfl, rfl, rfl⟩ := hu
    exact hsub _ List.mem_cons_self
  read := by
    obtain ⟨u, hu, hsub⟩ := himp.exists_part (h.order.subset (by simp) :
      (⟨.store (.get id), .ok seen⟩ : (gateSignature Company.resource).Act) ∈ t)
    exact hsub _ (Service.yields_get hu)

/-- A change of the registry is made on behalf of a call that changes the store, after a run of the
gate without such a call. -/
theorem exists_call {call : RegistryCall} {x : call.Answer}
    (h : (e.request g s c).carryOut.Begins (v ++ ⟨.registry call, x⟩ :: w))
    (hm : call.mutates = true) : ∃ sc t v₁ v₂, v = v₁ ++ v₂ ∧
      Program.Implements (Service.answering s) t v₁ ∧
      (∀ y, (e.atGate g c).carryOut.Begins (t ++ [⟨.store sc, y⟩])) ∧
      (Service.store s sc).Begins (v₂ ++ [⟨.registry call, x⟩]) := by
  rw [request, CompanyGate.withService, Request.carryOut_refine] at h
  obtain ⟨t, q, v₁, v₂, hv, himp, hasked, hbegins⟩ := Program.exists_asked h
  have hquiet : ¬(Service.answering s q).AsksOnly Harmless := not_harmless_of_begins hbegins hm
  cases q with
  | store sc => exact ⟨sc, t, v₁, v₂, hv, himp, hasked, hbegins⟩
  | _ => exact absurd (Service.harmless_answering rfl) hquiet

/-- What an errand does before it changes the registry, and how it changes it. -/
theorem of_mutation {call : RegistryCall} {x : call.Answer}
    (h : (e.request g s c).carryOut.Begins (v ++ ⟨.registry call, x⟩ :: w))
    (hm : call.mutates = true) : (∀ act ∈ v, Harmless act.question) ∧
      ((∃ row, call = .insert row) ∨
        (∃ p sub seen current now v₁, e = .update (.ok p) ∧ Vetted g c .update p.id sub seen v₁ ∧
          v = v₁ ++ Service.rereadRun p current now ∧
          call = .replace (Service.overwritten p current now)) ∨
        ∃ id sub seen, e = .delete (.ok id) ∧ Vetted g c .delete id sub seen v ∧
          call = .remove id) := by
  obtain ⟨sc, t, v₁, v₂, rfl, himp, hasked, hbegins⟩ := exists_call h hm
  obtain ⟨hsc, hv₂, hcall⟩ := Service.begins_store hbegins hm
  have y : sc.Answer := by cases sc <;> exact .error .cancelled
  obtain ⟨ht, herrand⟩ := cleared_of_call hsc (hasked y)
  refine ⟨fun act hact => ?_, ?_⟩
  · rcases List.mem_append.mp hact with hact | hact
    · refine himp.asks (fun b hb => Service.harmless_answering ?_) act hact
      simpa using List.filter_eq_nil_iff.mp ht b hb
    · exact hv₂ act hact
  -- The errand decides the call on the store, and this call the step on the registry.
  · rcases hcall with ⟨d, row, -, rfl⟩ | ⟨p, current, now, rfl, rfl, rfl⟩ | ⟨id, rfl, rfl, rfl⟩
    · exact .inl ⟨row, rfl⟩
    · rcases herrand with ⟨d, hd⟩ | ⟨p', sub, seen, rfl, hp, hcleared⟩ | ⟨id, _, _, _, hid, _⟩
      · cases hd
      · cases hp
        exact .inr (.inl ⟨p, sub, seen, current, now, v₁, rfl, vetted_of_implements himp hcleared,
          rfl, rfl⟩)
      · cases hid
    · rcases herrand with ⟨d, hd⟩ | ⟨p', _, _, _, hp, _⟩ | ⟨id', sub, seen, rfl, hid, hcleared⟩
      · cases hd
      · cases hp
      · cases hid
        rw [List.append_nil]
        exact .inr (.inr ⟨id, sub, seen, rfl, vetted_of_implements himp hcleared, rfl⟩)

/-- The store has accepted the call of a request to change something that succeeds. -/
theorem accepted_of_ends {ι σ β : Type} {m : Gate.Mutation Company.resource ι σ β} {op : Operation}
    {input : Except Failure ι} {f : β → Result} {result : Result} (hm : m.Plain)
    (he : e.atGate g c = (Gate.request (m.checks g c op input)).map fun y => y.map f)
    (h : (e.request g s c).carryOut.Ends v (.ok result)) :
    ∃ i seen u, ∃ y : (m.call i).Answer, ∃ reply, input = .ok i ∧
      m.answer_eq i ▸ y = Except.ok reply ∧ (Service.store s (m.call i)).Ends u y ∧ u ⊆ v ∧
      (m.finish (.ok (m.news seen reply))).map f = .ok result := by
  rw [request, CompanyGate.withService, Request.carryOut_refine, he] at h
  obtain ⟨t, ht, himp⟩ := Program.ends_refine.mp h
  obtain ⟨z, hz, hresult⟩ := Request.ends_carryOut_map.mp ht
  obtain ⟨i, seen, y, reply, hi, hy, hmem, rfl⟩ := Gate.made_of_ends hm hz (by
    rintro f rfl
    cases hresult)
  obtain ⟨u, hu, hsub⟩ := himp.exists_part hmem
  exact ⟨i, seen, u, y, reply, hi, hy, hu, hsub, hresult⟩

/-- An update that succeeds has overwritten a row. -/
theorem replaced_of_ends {p : Company.Patch} {result : Result}
    (h : ((update (.ok p)).request g s c).carryOut.Ends v (.ok result)) : ∃ current now x,
      ⟨.registry (.replace (Service.overwritten p current now)), .ok x⟩ ∈ v := by
  obtain ⟨i, _, u, y, reply, hi, hy, hu, hsub, -⟩ := accepted_of_ends Gate.plain_alteration rfl h
  cases hi
  cases (hy : y = .ok reply)
  obtain ⟨current, now, hreplace⟩ := Service.yields_update hu
  exact ⟨current, now, reply, hsub hreplace⟩

end Errand

/-! ## Errands side by side -/

namespace Traffic

variable {g : CompanyGate} {s : PagingSettings} {r : Registry}
  {errands : Nat → Option (Caller × Errand)} {h h₁ h₂ : History}
  {w : Traffic (Except Failure Errand.Result)} {i : Nat} {id : Uuid}

/-- Errands that have just been handed in by their callers, in front of a registry. -/
def opening (g : CompanyGate) (s : PagingSettings) (r : Registry)
    (errands : Nat → Option (Caller × Errand)) : Traffic (Except Failure Errand.Result) where
  registry := r
  requests i :=
    match errands i with
    | some (c, e) => .planning (e.request g s c)
    | none => .ended none

theorem opening_eq_handedIn : opening g s r errands =
    handedIn r fun i => (errands i).map fun ce => ce.2.request g s ce.1 := by
  rw [opening, handedIn]
  congr
  funext i
  cases errands i <;> rfl

/-- Whoever asks something has been handed in, and what was asked is a run of this errand. -/
theorem begins_of_opening (hs : Steps (opening g s r errands) h w) {a : systemSignature.Act}
    (ha : (i, .act a) ∈ h) : ∃ c e, errands i = some (c, e) ∧
      (e.request g s c).carryOut.Begins (said i h) := by
  rw [opening_eq_handedIn] at hs
  obtain ⟨request, hrequest, hbegins⟩ := begins_of_handedIn hs ha
  obtain ⟨⟨c, e⟩, herrand, rfl⟩ := Option.map_eq_some_iff.mp hrequest
  exact ⟨c, e, herrand, hbegins⟩

/-- A company that was found under a key was stored there at that moment. -/
theorem find?_of_found {found : Option Company}
    (hs : Steps (opening g s r errands)
      (h₁ ++ (i, .act ⟨.registry (.find id), .ok found⟩) :: h₂) w) :
    (r.following h₁).find? id = found := by
  have htold : (.ok found : Except RegistryError (Option Company)) =
      .ok ((r.following h₁).find? id) := hs.told
  cases htold
  rfl

/-- A request that has not come to its change leaves every row as it is. -/
theorem touches_of_harmless (hh : ∀ act ∈ said i h, Harmless act.question)
    {e : Happening systemSignature} (he : (i, e) ∈ h) : e.touches id = false := by
  unfold Happening.touches
  split
  · rename_i call x
    have hcall : call.mutates = false := hh _ (mem_said.mpr he)
    by_contra htouches
    simp [RegistryCall.mutates_of_touches (Bool.of_not_eq_false htouches)] at hcall
  · rfl

/-- Before its one change a request asks only what leaves the registry as it is. -/
theorem harmless_of_mutation {call : RegistryCall} {x : call.Answer}
    (hs : Steps (opening g s r errands) (h₁ ++ (i, .act ⟨.registry call, x⟩) :: h₂) w)
    (hm : call.mutates = true) : ∀ act ∈ said i h₁, Harmless act.question := by
  obtain ⟨c, e, -, hbegins⟩ := begins_of_opening hs (List.mem_append_right _ List.mem_cons_self)
  rw [said_append, said_cons_self] at hbegins
  exact (Errand.of_mutation hbegins hm).1

/-- Before its one change a request makes no other one. -/
theorem not_mem_of_mutation {call call' : RegistryCall} {x : call.Answer} {x' : call'.Answer}
    (hs : Steps (opening g s r errands) (h₁ ++ (i, .act ⟨.registry call, x⟩) :: h₂) w)
    (hm : call.mutates = true) (hm' : call'.mutates = true) :
    (i, .act ⟨.registry call', x'⟩) ∉ h₁ := by
  intro hmem
  have hcall' : call'.mutates = false := harmless_of_mutation hs hm _ (mem_said.mpr hmem)
  simp [hm'] at hcall'

/-- After its one change as well it asks only what leaves the registry as it is. -/
theorem harmless_after_mutation {call : RegistryCall} {x : call.Answer}
    (hs : Steps (opening g s r errands) (h₁ ++ (i, .act ⟨.registry call, x⟩) :: h₂) w)
    (hm : call.mutates = true) : ∀ act ∈ said i h₂, Harmless act.question := by
  intro act hact
  by_contra hharm
  obtain ⟨q, y⟩ := act
  cases q with
  | registry call' =>
    have hm' : call'.mutates = true := by simpa [Harmless, SystemCall.mutates] using hharm
    obtain ⟨k₁, k₂, rfl⟩ := List.append_of_mem (mem_said.mp hact)
    rw [← List.cons_append, ← List.append_assoc] at hs
    have hearlier : (i, .act ⟨.registry call, x⟩) ∉ h₁ ++ (i, .act ⟨.registry call, x⟩) :: k₁ :=
      not_mem_of_mutation hs hm' hm
    exact hearlier (by simp)
  | _ => exact hharm rfl

/-! ## Quiet surroundings -/

/-- Surroundings in which nothing is cancelled, callers are anonymous and the clock stands still. -/
def calm : (q : SystemCall) → q.Answer
  | .poll => false
  | .verify _ => .ok none
  | .consult _ _ => ()
  | .registry call => call.failed (.storage "")
  | .now => default
  | .freshId => default
  | .send _ => .ok ()
  | .log _ => ()

/-- A gate that lets everybody do anything with companies. -/
def unguarded : CompanyGate where
  evaluator := ⟨⟨fun _ => some [Builtin.anybody.checker _]⟩,
    ⟨fun _ => some [Builtin.anybody.checker _]⟩⟩
  complete := rfl

/-- A company like any other, which is not registered. -/
def plainCompany : Company :=
  ⟨.ofNat 1, default, default, "Name", "", 1, false, .corporation⟩

/-- The patch that registers it. -/
def registering : Company.Patch :=
  { Company.Patch.empty plainCompany.id with registered := some true }

end Traffic

/-- The registry with one company. -/
def Registry.sole (c : Company) : Registry := ⟨[(c.id, c)], by simp⟩

theorem Registry.keyed_sole (c : Company) : (Registry.sole c).Keyed := by
  intro id d h
  by_cases hid : c.id = id
  · obtain rfl : c = d := by simpa [find?, sole, hid] using h
    exact hid
  · simp [find?, sole, hid] at h

end Gatehouse
