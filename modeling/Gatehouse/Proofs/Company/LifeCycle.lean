import Gatehouse.Proofs.Company.Announcement

/-!
# The life of a company

A company comes to the registry with the insertion of its row, or was there at first, and it goes with
the first removal that succeeds. If no identifier is given out twice it never comes back, whatever
order the steps of the requests take: an update that has read the row before it was removed finds no
row in place of which to store its own. So one deletion at most succeeds and is told to the sinks.

The vocabulary is `WillGet`, what a caller is going to be told, and `LifeCycle`, all that follows for
whole histories.
-/

namespace Gatehouse

open Attempt

/-! ## What callers are told -/

namespace Service

variable {α β : Type}

/-- A part of the service that fails with whatever the registry refuses. -/
def Heeds (x : Part α) : Prop :=
  ∀ t y, Program.Ends x.run t y → ∀ (call : RegistryCall) (err : RegistryError),
    ⟨.registry call, call.failed err⟩ ∈ t → y = .error (.ofRegistry err)

theorem heeds_pure (a : α) : Heeds (pure a) := by
  intro t y h call err hmem
  obtain ⟨rfl, -⟩ := h
  exact absurd hmem List.not_mem_nil

theorem heeds_orFail (x : Except RegistryError α) : Heeds (orFail x) := by
  intro t y h call err hmem
  obtain ⟨rfl, -⟩ := h
  exact absurd hmem List.not_mem_nil

theorem heeds_asking {q : SystemCall} (hq : ∀ call, q ≠ .registry call) : Heeds (asking q) := by
  intro t y h call err hmem
  obtain ⟨x, u, rfl, rfl, -⟩ := h
  have hcall : SystemCall.registry call = q :=
    congrArg Signature.Act.question (List.mem_singleton.mp hmem)
  exact absurd hcall.symm (hq call)

theorem Heeds.bind {x : Part α} {f : α → Part β} (hx : Heeds x) (hf : ∀ a, Heeds (f a)) :
    Heeds (x >>= f) := by
  intro t y h call err hmem
  rw [run_bind] at h
  obtain ⟨z, t₁, h₁, t₂, rfl, h₂⟩ := Program.ends_bind.mp h
  cases z with
  | error e =>
    obtain ⟨rfl, rfl⟩ := h₂
    rw [List.append_nil] at hmem
    cases hx t₁ _ h₁ call err hmem
    rfl
  | ok a =>
    rcases List.mem_append.mp hmem with hmem | hmem
    · cases hx t₁ _ h₁ call err hmem
    · exact hf a t₂ y h₂ call err hmem

/-- A call on the registry whose answer is looked at first of all. -/
theorem heeds_registry {call : RegistryCall} {f : call.Answer → Part β}
    (hfailed : ∀ err, (f (call.failed err)).run = .done (.error (.ofRegistry err)))
    (hf : ∀ x, Heeds (f x)) : Heeds (asking (.registry call) >>= f) := by
  intro t y h call' err hmem
  obtain ⟨x, u, rfl, hu⟩ := h
  rcases List.mem_cons.mp hmem with heq | hmem
  · cases heq
    have hrest : Program.Ends (f (call.failed err)).run u y := hu
    rw [hfailed err] at hrest
    exact hrest.2.symm
  · exact hf x u y hu call' err hmem

theorem heeds_say (entry : Log.Entry) : Heeds (say entry) := heeds_asking fun _ => by simp

theorem heeds_create (d : Company.Draft) : Heeds (create d) := by
  refine (heeds_orFail _).bind fun _ => (heeds_asking (by simp)).bind fun now => ?_
  refine (heeds_asking (by simp)).bind fun id => heeds_registry (fun err => rfl) fun x => ?_
  exact (heeds_orFail x).bind fun c => (heeds_say _).bind fun _ => heeds_pure c

theorem heeds_update (p : Company.Patch) : Heeds (update p) := by
  refine (heeds_orFail _).bind fun _ => heeds_registry (fun err => rfl) fun x => ?_
  refine (heeds_orFail x).bind fun found => ?_
  cases found with
  | none => exact heeds_orFail _
  | some c =>
    refine (heeds_asking (by simp)).bind fun now => heeds_registry (fun err => rfl) fun y => ?_
    exact (heeds_orFail y).bind fun c => (heeds_say _).bind fun _ => heeds_pure c

theorem heeds_delete (id : Uuid) : Heeds (delete id) := by
  refine heeds_registry (fun err => rfl) fun x => (heeds_orFail x).bind fun found => ?_
  cases found with
  | true => exact heeds_say _
  | false => exact heeds_orFail _

/-- What the registry refuses to a call that changes the store, the service refuses. -/
theorem refuses_of_failed {s : PagingSettings} {sc : StoreCall Company.resource} {y : sc.Answer}
    {t : Trace systemSignature} {call : RegistryCall} {err : RegistryError}
    (h : (store s sc).Ends t y) (hsc : sc.mutates = true)
    (hmem : ⟨.registry call, call.failed err⟩ ∈ t) : sc.Refuses y (.ofRegistry err) := by
  cases sc with
  | create d => exact heeds_create d t y h call err hmem
  | update p => exact heeds_update p t y h call err hmem
  | delete id => exact heeds_delete id t y h call err hmem
  | get _ | list _ | count _ => cases hsc

end Service

namespace Errand

open Gate

variable {g : CompanyGate} {s : PagingSettings} {c : Caller} {e : Errand}
  {v : Trace systemSignature} {x : Except Failure Result}

/-- A caller is told what the registry has refused. -/
theorem refused_of_ends {call : RegistryCall} {err : RegistryError}
    (h : (e.request g s c).carryOut.Ends v x) (hm : call.mutates = true)
    (hmem : ⟨.registry call, call.failed err⟩ ∈ v) : x = .error (.ofRegistry err) := by
  rw [request, CompanyGate.withService, Request.carryOut_refine] at h
  obtain ⟨t, ht, himp⟩ := Program.ends_refine.mp h
  obtain ⟨⟨q, y⟩, hq, u, hu, hcall⟩ := himp.exists_whole hmem
  have hmutates : q.mutates = true := by
    by_contra hquiet
    have hharmless : call.mutates = false :=
      (Service.harmless_answering (by simpa using hquiet)).of_begins hu.begins _ hcall
    rw [hm] at hharmless
    cases hharmless
  cases q with
  | store sc =>
    have hrefuses := Service.refuses_of_failed hu hmutates hcall
    have hquiet : changes t ≠ [] := fun hnil =>
      List.filter_eq_nil_iff.mp hnil _ hq hmutates
    cases e with
    | create input =>
      obtain ⟨b, hb, rfl⟩ := Request.ends_carryOut_map.mp ht
      rw [create_eq] at hb
      rw [refused_of_mem plain_creation hb hq hmutates hrefuses]
      rfl
    | update input =>
      obtain ⟨b, hb, rfl⟩ := Request.ends_carryOut_map.mp ht
      rw [update_eq] at hb
      rw [refused_of_mem plain_alteration hb hq hmutates hrefuses]
      rfl
    | delete input =>
      obtain ⟨b, hb, rfl⟩ := Request.ends_carryOut_map.mp ht
      rw [delete_eq] at hb
      rw [refused_of_mem plain_removal hb hq hmutates hrefuses]
      rfl
    | get input =>
      obtain ⟨b, hb, -⟩ := Request.ends_carryOut_map.mp ht
      exact absurd (changes_get g c hb.begins) hquiet
    | list input =>
      obtain ⟨b, hb, -⟩ := Request.ends_carryOut_map.mp ht
      exact absurd (changes_list g c hb.begins) hquiet
    | authorize op =>
      obtain ⟨b, hb, -⟩ := Request.ends_carryOut_map.mp ht
      exact absurd (changes_authorize g c hb.begins) hquiet
  | poll | verify _ | consult _ _ | send _ | log _ => cases hmutates

/-- A creation that succeeds has inserted the company. -/
theorem inserted_of_ends {input : Except Failure Company.Draft} {company : Company}
    (h : ((create input).request g s c).carryOut.Ends v (.ok (.company company))) :
    ∃ row, ⟨.registry (.insert row), .ok company⟩ ∈ v := by
  obtain ⟨d, _, u, y, reply, -, hy, hu, hsub, hresult⟩ := accepted_of_ends plain_creation rfl h
  cases hresult
  cases (hy : y = .ok reply)
  obtain ⟨row, hrow⟩ := Service.yields_create hu
  exact ⟨row, hsub hrow⟩

/-- A deletion that succeeds has removed a row. -/
theorem removed_of_ends {id : Uuid} {result : Result}
    (h : ((delete (.ok id)).request g s c).carryOut.Ends v (.ok result)) :
    ⟨.registry (.remove id), .ok true⟩ ∈ v := by
  obtain ⟨key, _, u, y, reply, hkey, hy, hu, hsub, -⟩ := accepted_of_ends plain_removal rfl h
  cases hkey
  cases (hy : y = .ok reply)
  exact hsub (Service.yields_delete hu)

end Errand

namespace Traffic

open Errand

variable {g : CompanyGate} {s : PagingSettings} {r : Registry}
  {errands : Nat → Option (Caller × Errand)} {h h₁ h₂ k : History} {i j : Nat}
  {w w' : Traffic (Except Failure Result)} {id : Uuid} {row : Company} {x : Except Failure Result}
  {c : Caller} {e : Errand}

/-- What a caller has got is what its errand ends with. -/
theorem ends_of_opening (hs : Steps (opening g s r errands) h w) (hi : errands i = some (c, e))
    (hended : w.requests i = .ended (some x)) :
    (e.request g s c).carryOut.Ends (said i h) x := by
  have hown := hs.own i
  rw [hended] at hown
  simp only [opening, hi] at hown
  exact Process.ends_of_steps hown

/-- A caller that stays is answered with this, and whoever is answered is answered with this. -/
structure WillGet (h : History) (w : Traffic (Except Failure Result)) (i : Nat)
    (x : Except Failure Result) : Prop where
  only : ∀ k w' got, Steps w k w' → w'.requests i = .ended (some got) → got = x
  answered : (i, .leave) ∉ h → ∃ k w', Steps w k w' ∧ (∀ e ∈ k, e.1 = i ∧ e.2 ≠ .leave) ∧
    w'.requests i = .ended (some x)

/-- A caller will be told what the registry has refused. -/
theorem willGet_of_failed {call : RegistryCall} {err : RegistryError}
    (hs : Steps (opening g s r errands) h w) (hm : call.mutates = true)
    (hmem : (i, .act ⟨.registry call, call.failed err⟩) ∈ h) :
    WillGet h w i (.error (.ofRegistry err)) := by
  obtain ⟨c, e, hi, -⟩ := begins_of_opening hs hmem
  have honly : ∀ k w' got, Steps w k w' → w'.requests i = .ended (some got) →
      got = .error (.ofRegistry err) := by
    intro k w' got hk hended
    refine refused_of_ends (ends_of_opening (hs.append hk) hi hended) hm ?_
    exact mem_said.mpr (List.mem_append_left k hmem)
  refine ⟨honly, fun hstay => ?_⟩
  obtain ⟨k, w', got, hk, hown, hended⟩ := exists_ending calm w i
  refine ⟨k, w', hk, hown, ?_⟩
  have hall := (hs.append hk).own i
  rw [hended] at hall
  simp only [opening, hi] at hall
  have hstay' : .leave ∉ Traffic.own i (h ++ k) := by
    rw [mem_own, List.mem_append, not_or]
    exact ⟨hstay, fun hleave => (hown _ hleave).2 rfl⟩
  rcases Process.carried_of_steps hall with ⟨-, hleave, -⟩ | ⟨b, -, hgot, -⟩
  · exact absurd hleave hstay'
  · rw [hgot hstay'] at hended
    rw [hended, honly k w' b hk hended]

/-! ## The headline -/

/-- A request inserts a row. -/
abbrev inserts (i : Nat) (row : Company) (x : (RegistryCall.insert row).Answer) :
    Nat × Happening systemSignature :=
  (i, .act ⟨.registry (.insert row), x⟩)

/-- A request is one to delete the company under a key. -/
def Deletes (errands : Nat → Option (Caller × Errand)) (i : Nat) (id : Uuid) : Prop :=
  ∃ c, errands i = some (c, .delete (.ok id))

/-- A row is inserted under a key that is in use: it is refused, nothing changes, and this is what the
caller is told. -/
theorem refused_of_insert {x : Except RegistryError Company}
    (hs : Steps (opening g s r errands) (h₁ ++ inserts i row x :: h₂) w)
    (hin : (r.following h₁).contains row.id = true) :
    x = .error (.invalid "id" "company with this id already exists") ∧
      r.following (h₁ ++ [inserts i row x]) = r.following h₁ ∧
      WillGet (h₁ ++ inserts i row x :: h₂) w i
        (.error (.invalid "id" "company with this id already exists")) := by
  have hperform := Registry.perform_insert_of_contains hin
  have htold : x = ((RegistryCall.insert row).perform (r.following h₁)).1 := hs.told
  rw [hperform] at htold
  subst htold
  refine ⟨rfl, ?_, willGet_of_failed hs rfl (List.mem_append_right _ List.mem_cons_self)⟩
  rw [Registry.following_append]
  exact congrArg Prod.snd hperform

/-- A row is stored in place of another under a key that is not in use: it is refused, nothing
changes, and this is what the caller is told. -/
theorem refused_of_stores {x : Except RegistryError Company}
    (hs : Steps (opening g s r errands) (h₁ ++ stores i row x :: h₂) w)
    (hout : (r.following h₁).contains row.id = false) :
    x = .error (.notFound row.id) ∧ r.following (h₁ ++ [stores i row x]) = r.following h₁ ∧
      WillGet (h₁ ++ stores i row x :: h₂) w i (.error (.notFound "company" row.id.text)) := by
  have hperform := Registry.perform_replace_of_not_contains hout
  have htold : x = ((RegistryCall.replace row).perform (r.following h₁)).1 := hs.told
  rw [hperform] at htold
  subst htold
  refine ⟨rfl, ?_, willGet_of_failed hs rfl (List.mem_append_right _ List.mem_cons_self)⟩
  rw [Registry.following_append]
  exact congrArg Prod.snd hperform

/-- Whoever stores a row in place of another has been asked for an update and has read the row that
it updates, which is one under its own key. -/
theorem update_of_stores {x : (RegistryCall.replace row).Answer}
    (hs : Steps (opening g s r errands) (h₁ ++ stores i row x :: h₂) w) :
    ∃ c p found, errands i = some (c, .update (.ok p)) ∧ reads i p.id (.ok (some found)) ∈ h₁ ∧
      (r.Keyed → p.id = row.id) := by
  obtain ⟨c, e, hi, hbegins⟩ := begins_of_opening hs (List.mem_append_right _ List.mem_cons_self)
  rw [said_append, said_cons_self] at hbegins
  obtain ⟨-, ⟨_, hcall⟩ | ⟨p, _, _, found, now, v, rfl, -, hsaid, hcall⟩ | ⟨_, _, _, _, -, hcall⟩⟩ :=
    of_mutation hbegins rfl
  · cases hcall
  · refine ⟨c, p, found, hi, mem_said.mp (hsaid ▸ by simp [Service.rereadRun]), fun hr => ?_⟩
    obtain ⟨_, _, _, _, -, hid, -⟩ := reread_of_stores hr hs hi
    exact hid.symm
  · cases hcall

/-- If no identifier is given out twice, a row is removed only once. -/
theorem not_removed_of_removes (hu : Unrepeated r (h₁ ++ removes i id (.ok true) :: h₂))
    (hs : Steps (opening g s r errands) (h₁ ++ removes i id (.ok true) :: h₂) w) :
    ¬Removed h₁ id ∧ ¬Removed h₂ id := by
  -- A removal that succeeds finds a row, and there is none after another such removal.
  have hone : ∀ {k₁ k₂ : History} {j : Nat} {w' : Traffic (Except Failure Result)},
      Steps (opening g s r errands) (k₁ ++ removes j id (.ok true) :: k₂) w' →
      Unrepeated r (k₁ ++ removes j id (.ok true) :: k₂) → ¬Removed k₁ id := by
    intro k₁ k₂ j w' hk hku hremoved
    obtain ⟨w₁, hk₁, -⟩ := hk.split
    have hin : (r.following k₁).contains id = true := (Except.ok.inj hk.told).symm
    rw [not_contains_of_removed hk₁ hku.of_append hremoved] at hin
    cases hin
  refine ⟨hone hs hu, ?_⟩
  rintro ⟨j, hmem⟩
  obtain ⟨k₁, k₂, rfl⟩ := List.append_of_mem hmem
  rw [← List.cons_append, ← List.append_assoc] at hs hu
  exact hone hs hu ⟨i, by simp⟩

/-- If no identifier is given out twice, two removals of one row are one. -/
theorem eq_of_removes {k₁ k₂ : History} (hu : Unrepeated r h)
    (hs : Steps (opening g s r errands) h w) (hi : h = h₁ ++ removes i id (.ok true) :: h₂)
    (hj : h = k₁ ++ removes j id (.ok true) :: k₂) : i = j ∧ h₁ = k₁ := by
  subst hi
  obtain ⟨hbefore, hafter⟩ := not_removed_of_removes hu hs
  obtain ⟨hsame, hremoves, -⟩ := (List.append_cons_inj_of_notMem (fun hmem => hbefore ⟨j, hmem⟩)
    fun hmem => hafter ⟨j, hmem⟩).mp hj
  exact ⟨congrArg Prod.fst hremoves, hsame⟩

/-- A deletion tells the sinks once, after it has removed the row. -/
theorem removes_of_told {ev : Event Company} {d : Delivery} (hi : Deletes errands i id)
    (hs : Steps (opening g s r errands) (h₁ ++ (i, .act ⟨.send ev, d⟩) :: h₂) w) :
    removes i id (.ok true) ∈ h₁ ∧
      ∀ ev' d', (i, .act ⟨.send ev', d'⟩) ∉ h₁ ∧ (i, .act ⟨.send ev', d'⟩) ∉ h₂ := by
  have hfirst : ∀ {k₁ k₂ : History} {ev : Event Company} {d : Delivery}
      {w' : Traffic (Except Failure Result)},
      Steps (opening g s r errands) (k₁ ++ (i, .act ⟨.send ev, d⟩) :: k₂) w' →
      removes i id (.ok true) ∈ k₁ ∧ ∀ ev' d', (i, .act ⟨.send ev', d'⟩) ∉ k₁ := by
    intro k₁ k₂ ev d w' hk
    obtain ⟨c, hc⟩ := hi
    obtain ⟨_, _, hi', hbegins⟩ := begins_of_opening hk (List.mem_append_right _ List.mem_cons_self)
    cases hc.symm.trans hi'
    rw [said_append, said_cons_self] at hbegins
    obtain ⟨hsilent, htells⟩ := tells_of_begins hbegins
    constructor
    · generalize hsaid : said i k₁ = v at htells
      cases htells with
      | deleted read removed => exact mem_said.mp (hsaid ▸ List.mem_append_right _ removed)
    · intro ev' d' hmem
      exact absurd (List.filterMap_eq_nil_iff.mp hsilent _ (mem_said.mpr hmem)) (by
        simp [SystemCall.event?])
  obtain ⟨hremoved, hbefore⟩ := hfirst hs
  refine ⟨hremoved, fun ev' d' => ⟨hbefore ev' d', fun hmem => ?_⟩⟩
  obtain ⟨k₁, k₂, rfl⟩ := List.append_of_mem hmem
  rw [← List.cons_append, ← List.append_assoc] at hs
  exact (hfirst hs).2 ev d (by simp)

/-- What becomes of companies in a history in which no identifier is given out twice. -/
structure LifeCycle (r : Registry) (errands : Nat → Option (Caller × Errand)) (h : History)
    (w : Traffic (Except Failure Result)) : Prop where
  /-- A key is in use from the start, or from an insertion under it, up to the first removal that
  succeeds, and never again. -/
  in_use : ∀ h₁ h₂ id, h = h₁ ++ h₂ →
    ((r.following h₁).contains id = true ↔ Known r h₁ id ∧ ¬Removed h₁ id)
  /-- Rows are inserted under fresh keys, and none is refused. -/
  inserted_fresh : ∀ h₁ h₂ i row x, h = h₁ ++ inserts i row x :: h₂ →
    x = .ok row ∧ ¬Known r h₁ row.id ∧ ¬Removed h₁ row.id
  /-- A row is removed once. -/
  removed_once : ∀ h₁ h₂ i id, h = h₁ ++ removes i id (.ok true) :: h₂ →
    Known r h₁ id ∧ ¬Removed h₁ id ∧ ¬Removed h₂ id
  /-- An update that has read a row and stores its own after the row was removed is told that there
  is no such company, and does not bring it back. -/
  late_update : ∀ h₁ h₂ i row x, h = h₁ ++ stores i row x :: h₂ → Removed h₁ row.id →
    (∃ c p found, errands i = some (c, .update (.ok p)) ∧ reads i p.id (.ok (some found)) ∈ h₁ ∧
      (r.Keyed → p.id = row.id)) ∧
    x = .error (.notFound row.id) ∧ r.following (h₁ ++ [stores i row x]) = r.following h₁ ∧
    WillGet h w i (.error (.notFound "company" row.id.text))
  /-- Of all deletions of a company one at most succeeds. -/
  deleted_once : ∀ i j id a b, Deletes errands i id → Deletes errands j id →
    w.requests i = .ended (some (.ok a)) → w.requests j = .ended (some (.ok b)) → i = j
  /-- All deletions of a company together tell the sinks one event at most. -/
  told_once : ∀ h₁ h₂ k₁ k₂ i j id ev ev' d d', Deletes errands i id → Deletes errands j id →
    h = h₁ ++ (i, .act ⟨.send ev, d⟩) :: h₂ → h = k₁ ++ (j, .act ⟨.send ev', d'⟩) :: k₂ →
    i = j ∧ h₁ = k₁
  /-- A company whose creation has succeeded is found by whoever looks for it later on, unless it was
  removed by then. -/
  created_found : ∀ i c input company, errands i = some (c, .create input) →
    w.requests i = .ended (some (.ok (.company company))) →
    ∀ k₁ k₂ j x w', Steps w (k₁ ++ reads j company.id x :: k₂) w' →
      ¬Removed (h ++ k₁) company.id → ∃ row, x = .ok (some row)

theorem told_once_of_unrepeated {k₁ k₂ : History} {ev ev' : Event Company} {d d' : Delivery}
    (hu : Unrepeated r h) (hs : Steps (opening g s r errands) h w) (hi : Deletes errands i id)
    (hj : Deletes errands j id) (hsend : h = h₁ ++ (i, .act ⟨.send ev, d⟩) :: h₂)
    (hsend' : h = k₁ ++ (j, .act ⟨.send ev', d'⟩) :: k₂) : i = j ∧ h₁ = k₁ := by
  obtain ⟨hremoves, hsilent⟩ := removes_of_told hi (hsend ▸ hs)
  obtain ⟨hremoves', -⟩ := removes_of_told hj (hsend' ▸ hs)
  have hmem : removes i id (.ok true) ∈ h := hsend ▸ List.mem_append_left _ hremoves
  have hmem' : removes j id (.ok true) ∈ h := hsend' ▸ List.mem_append_left _ hremoves'
  obtain ⟨l₁, l₂, hl⟩ := List.append_of_mem hmem
  obtain ⟨m₁, m₂, hm⟩ := List.append_of_mem hmem'
  obtain ⟨rfl, -⟩ := eq_of_removes hu hs hl hm
  obtain ⟨hbefore, hafter⟩ := hsilent ev' d'
  exact ⟨rfl, ((List.append_cons_inj_of_notMem hbefore hafter).mp (hsend.symm.trans hsend')).1⟩

/-- A company whose creation has succeeded is known from then on. -/
theorem known_of_created {input : Except Failure Company.Draft} {company : Company}
    (hs : Steps (opening g s r errands) h w) (hi : errands i = some (c, .create input))
    (hended : w.requests i = .ended (some (.ok (.company company)))) : Known r h company.id := by
  obtain ⟨row, hrow⟩ := inserted_of_ends (ends_of_opening hs hi hended)
  have hmem : inserts i row (.ok company) ∈ h := mem_said.mp hrow
  obtain ⟨h₁, h₂, rfl⟩ := List.append_of_mem hmem
  have heffect := RegistryCall.effect?_insert hs.told.symm
  have hsame : company = row := by
    rw [RegistryCall.effect?] at heffect
    split at heffect
    · cases heffect
    · exact (congrArg Prod.snd (Option.some.inj heffect)).symm
  subst hsame
  exact .inr ⟨i, company, rfl, hmem⟩

/-- **Companies live once.** Any number of requests to create, update and delete companies, whatever
the order of their steps. If no identifier is given out twice, and none that was in use at first, a
company is there from its insertion, or from the start, up to the first removal that succeeds, and
never again. An update that comes too late is told so and does not bring the company back; of all
deletions of one company one at most succeeds, and one event at most is sent about them; and a
company whose creation has succeeded is found until it is removed. Whatever identifiers are given
out, a row that is inserted under a key in use is refused and changes nothing. -/
theorem companies_live_once (hs : Steps (opening g s r errands) h w) :
    (Unrepeated r h → LifeCycle r errands h w) ∧
    ∀ h₁ h₂ i row x, h = h₁ ++ inserts i row x :: h₂ → (r.following h₁).contains row.id = true →
      x = .error (.invalid "id" "company with this id already exists") ∧
      r.following (h₁ ++ [inserts i row x]) = r.following h₁ ∧
      WillGet h w i (.error (.invalid "id" "company with this id already exists")) := by
  refine ⟨fun hu => ?_, ?_⟩
  · constructor
    case in_use =>
      rintro h₁ h₂ id rfl
      obtain ⟨w₁, hs₁, -⟩ := hs.split
      refine ⟨fun hin => ⟨known_of_contains hs₁ hin, fun hremoved => ?_⟩, fun ⟨hknown, hstays⟩ =>
        contains_of_known hs₁ hknown hstays⟩
      rw [not_contains_of_removed hs₁ hu.of_append hremoved] at hin
      cases hin
    case inserted_fresh =>
      rintro h₁ h₂ i row x rfl
      obtain ⟨w₁, hs₁, -⟩ := hs.split
      have hfresh : ¬Known r h₁ row.id := not_known_of_insert hs hu
      have hout : (r.following h₁).contains row.id = false := by
        by_contra hout
        have hin : (r.following h₁).contains row.id = true := by simpa using hout
        exact hfresh (known_of_contains hs₁ hin)
      exact ⟨hs.told.trans (Registry.perform_insert_of_not_contains hout).1, hfresh,
        fun hremoved => hfresh (hremoved.known hs₁)⟩
    case removed_once =>
      rintro h₁ h₂ i id rfl
      obtain ⟨w₁, hs₁, -⟩ := hs.split
      have hin : (r.following h₁).contains id = true := (Except.ok.inj hs.told).symm
      exact ⟨known_of_contains hs₁ hin, not_removed_of_removes hu hs⟩
    case late_update =>
      rintro h₁ h₂ i row x rfl hremoved
      obtain ⟨w₁, hs₁, -⟩ := hs.split
      exact ⟨update_of_stores hs,
        refused_of_stores hs (not_contains_of_removed hs₁ hu.of_append hremoved)⟩
    case deleted_once =>
      rintro i j id a b ⟨c, hi⟩ ⟨c', hj⟩ ha hb
      have hremoved := removed_of_ends (ends_of_opening hs hi ha)
      have hremoved' := removed_of_ends (ends_of_opening hs hj hb)
      obtain ⟨l₁, l₂, hl⟩ := List.append_of_mem (mem_said.mp hremoved)
      obtain ⟨m₁, m₂, hm⟩ := List.append_of_mem (mem_said.mp hremoved')
      exact (eq_of_removes hu hs hl hm).1
    case told_once =>
      intro h₁ h₂ k₁ k₂ i j id ev ev' d d' hi hj hsend hsend'
      exact told_once_of_unrepeated hu hs hi hj hsend hsend'
    case created_found =>
      intro i c input company hi hended k₁ k₂ j x w' hk hstays
      have hknown : Known r (h ++ k₁) company.id := (known_of_created hs hi hended).append k₁
      have hall := hs.append hk
      rw [← List.append_assoc] at hall
      obtain ⟨w₁, hs₁, -⟩ := hall.split
      have hin := contains_of_known hs₁ hknown hstays
      rw [Registry.contains_eq_isSome] at hin
      obtain ⟨row, hrow⟩ := Option.isSome_iff_exists.mp hin
      exact ⟨row, hall.told.trans (congrArg Except.ok hrow)⟩
  · rintro h₁ h₂ i row x rfl hin
    exact refused_of_insert hs hin

/-- The update reads the row, and then the company is deleted. -/
def bereft : History × Traffic (Except Failure Result) :=
  exec calm (opening unguarded .standard (.sole plainCompany) race)
    (List.replicate 19 1 ++ List.replicate 25 0)

/-- The update goes on to its end. -/
def surviving : History × Traffic (Except Failure Result) := exec calm bereft.2 (List.replicate 10 1)

/-- The update finds no company in place of which to store its own, its caller will be told so, and
the company is not there. -/
theorem companies_live_once_bereft : ∃ row x,
    bereft.1 ++ surviving.1 = bereft.1 ++ stores 1 row x :: surviving.1.tail ∧
    x = .error (.notFound plainCompany.id) ∧
    WillGet (bereft.1 ++ surviving.1) surviving.2 1
      (.error (.notFound "company" plainCompany.id.text)) ∧
    (Registry.following (.sole plainCompany) (bereft.1 ++ surviving.1)).contains plainCompany.id =
      false := by
  have hs : Steps (opening unguarded .standard (.sole plainCompany) race)
      (bereft.1 ++ surviving.1) surviving.2 :=
    (steps_exec calm _ _).append (steps_exec calm bereft.2 _)
  have hunrepeated : Unrepeated (.sole plainCompany) (bereft.1 ++ surviving.1) := by
    have hgiven : given (bereft.1 ++ surviving.1) = [] := rfl
    exact ⟨by simp [hgiven], by simp [hgiven]⟩
  have hremoved : Removed bereft.1 plainCompany.id := ⟨0, List.mem_of_getElem? (i := 36) rfl⟩
  have hlife := (companies_live_once hs).1 hunrepeated
  have hsplit : bereft.1 ++ surviving.1 = bereft.1 ++ stores 1
      { plainCompany with registered := true } (.error (.notFound plainCompany.id)) ::
        surviving.1.tail := rfl
  obtain ⟨-, hx, -, hget⟩ := hlife.late_update _ _ _ _ _ hsplit hremoved
  refine ⟨_, _, hsplit, hx, hget, ?_⟩
  by_contra hin
  have huse := (hlife.in_use _ [] plainCompany.id (List.append_nil _).symm).mp (by simpa using hin)
  exact huse.2 (removed_append.mpr (.inl hremoved))

end Traffic

end Gatehouse
