import Gatehouse.Proofs.Company.Flaws
import Gatehouse.Proofs.Company.Sorting
import Gatehouse.Proofs.Company.Visits
import Gatehouse.Proofs.Gate.Welcome

/-!
# A ledger next to the registry

Callers who may do what they ask for, and whom nobody cancels, see a map from identifiers to
companies: what each of them is answered follows from the map alone, but for the identifiers that are
given out and the time, and so does the map after it. Neither the gate nor the way in which rows are
stored shows.

`Answers` says what is answered. It names the fields of a new and of a changed company one by one,
and of a refused payload the first flaw.
-/

namespace Gatehouse

open Attempt

/-! ## Listings -/

/-- These rows are the selected companies of a ledger, each of them once, in order. -/
structure Lists (m : Ledger) (criteria : Criteria) (order : List SortKey) (rows : List Company) :
    Prop where
  mem_iff : ∀ c, c ∈ rows ↔ m c.id = some c ∧ criteria.selects c = true
  nodup : rows.Nodup
  ordered : rows.Pairwise (NotAfter order)

/-- A ledger leaves nothing open about its listings. -/
theorem Lists.unique {m : Ledger} {criteria : Criteria} {order : List SortKey}
    {rows rows' : List Company} (h : Lists m criteria order rows) (h' : Lists m criteria order rows') :
    rows = rows' := by
  have hperm : rows.Perm rows' := by
    refine (List.perm_ext_iff_of_nodup h.nodup h'.nodup).mpr fun c => ?_
    rw [h.mem_iff, h'.mem_iff]
  refine hperm.eq_of_pairwise ?_ h.ordered h'.ordered
  intro a b ha hb hab hba
  have hid : a.id = b.id := id_eq_of_notAfter hab hba
  have ha' : m a.id = some a := ((h.mem_iff a).mp ha).1
  have hb' : m b.id = some b := ((h'.mem_iff b).mp hb).1
  rw [hid, hb'] at ha'
  exact (Option.some.inj ha').symm

theorem Registry.Keyed.lists_sorted {r : Registry} (hr : r.Keyed) (criteria : Criteria)
    (order : List SortKey) : Lists r.find? criteria order (r.sorted criteria order) where
  mem_iff _ := hr.mem_sorted
  nodup := hr.nodup_sorted.of_map
  ordered := pairwise_sorted

/-- A filter is accepted if its size and its order are. -/
theorem Page.ofFilter_eq_ok_iff {s : PagingSettings} {f : Company.Filter} {page : Page} :
    Page.ofFilter s f = .ok page ↔
      limitOf s f.pageSize = .ok page.limit ∧ SortKey.parseAll f.orderBy = .ok page.order ∧
        page.criteria = .ofFilter f ∧ page.offset = offsetOf page.limit f.pageNumber := by
  obtain ⟨criteria, order, offset, limit⟩ := page
  cases hlimit : limitOf s f.pageSize with
  | error e => simp [ofFilter, hlimit, Bind.bind, Except.bind]
  | ok limit' =>
    cases horder : SortKey.parseAll f.orderBy with
    | error e => simp [ofFilter, hlimit, horder, Bind.bind, Except.bind]
    | ok order' =>
      simp only [ofFilter, hlimit, horder, Bind.bind, Except.bind, Pure.pure, Except.pure,
        Except.ok.injEq, Page.mk.injEq]
      constructor
      · rintro ⟨rfl, rfl, rfl, rfl⟩
        exact ⟨rfl, rfl, rfl, rfl⟩
      · rintro ⟨rfl, rfl, rfl, rfl⟩
        exact ⟨rfl, rfl, rfl, rfl⟩

/-! ## What is answered -/

/-- The identifier of the company that must be there for a request. -/
def Errand.about? : Errand → Option Uuid
  | get (.ok id) | delete (.ok id) => some id
  | update (.ok p) => some p.id
  | _ => none

/-- What a request to a ledger is answered, and the ledger after it. Where an identifier is given out
or the clock is read, this is among what was said. -/
inductive Answers (s : PagingSettings) (sub : Option Subject) (said : Trace systemSignature)
    (m : Ledger) : Errand → Except Failure Errand.Result → Ledger → Prop where
  | draftRefused {d : Company.Draft} {field message : String} {rest : Company.Flaws}
    (flawed : d.flaws = (field, message) :: rest) :
    Answers s sub said m (.create (.ok d)) (.error (.invalid field message)) m
  | created {d : Company.Draft} {id : Uuid} {now : Timestamp} {row : Company} (sound : d.flaws = [])
    (given : ⟨.freshId, id⟩ ∈ said) (read : ⟨.now, now⟩ ∈ said) (free : m id = none)
    (row_eq : row = { id := id, createdAt := now, updatedAt := now, name := d.name,
                      description := d.description, employees := d.employees,
                      registered := d.registered, legalForm := d.legalForm }) :
    Answers s sub said m (.create (.ok d)) (.ok (.company row)) (Function.update m id (some row))
  | missing {e : Errand} {id : Uuid} (about : e.about? = some id) (absent : m id = none) :
    Answers s sub said m e (.error (.notFound "company" id.text)) m
  | found {id : Uuid} {c : Company} (stored : m id = some c) :
    Answers s sub said m (.get (.ok id)) (.ok (.company c)) m
  | patchRefused {p : Company.Patch} {c : Company} {field message : String} {rest : Company.Flaws}
    (stored : m p.id = some c) (flawed : p.flaws = (field, message) :: rest) :
    Answers s sub said m (.update (.ok p)) (.error (.invalid field message)) m
  | updated {p : Company.Patch} {c row : Company} {now : Timestamp} (stored : m p.id = some c)
    (sound : p.flaws = []) (read : ⟨.now, now⟩ ∈ said)
    (row_eq : row = { id := p.id, createdAt := c.createdAt, updatedAt := now,
                      name := p.name.getD c.name,
                      description := p.description.getD c.description,
                      employees := p.employees.getD c.employees,
                      registered := p.registered.getD c.registered,
                      legalForm := p.legalForm.getD c.legalForm }) :
    Answers s sub said m (.update (.ok p)) (.ok (.company row)) (Function.update m p.id (some row))
  | deleted {id : Uuid} {c : Company} (stored : m id = some c) :
    Answers s sub said m (.delete (.ok id)) (.ok .deleted) (Function.update m id none)
  | listed {f : Company.Filter} {page : Page} {rows : List Company}
    (accepted : Page.ofFilter s f = .ok page) (lists : Lists m page.criteria page.order rows) :
    Answers s sub said m (.list (.ok f)) (.ok (.listing
      ⟨(rows.drop page.offset.toNat).take page.limit.toNat, rows.length⟩)) m
  | pageRefused {f : Company.Filter} {e : RegistryError} (refused : Page.ofFilter s f = .error e) :
    Answers s sub said m (.list (.ok f)) (.error (.ofRegistry e)) m
  | admitted {op : Operation} : Answers s sub said m (.authorize op) (.ok (.caller sub)) m

section Service

variable {s : PagingSettings} {sub : Option Subject} {r r' : Registry}
  {u v : Trace systemSignature}

theorem answers_create {d : Company.Draft} {x : Except Failure Company}
    (h : Program.Ends (Service.create d).run u x) (hu : Leads Registry.Step r u r') (huv : u ⊆ v)
    (hfresh : ∀ id, ⟨.freshId, id⟩ ∈ v → r.find? id = none) :
    Answers s sub v r.find? (.create (.ok d)) (x.map .company) r'.find? := by
  rcases Service.create_effect h hu with ⟨e, hd, rfl, rfl⟩ | ⟨now, id, hd, hnow, hid, hstored⟩
  · rw [Company.Draft.validate_eq] at hd
    obtain ⟨field, message, rest, hflaws, rfl⟩ := Company.Flaws.exists_of_verdict hd
    exact .draftRefused hflaws
  · rw [Company.Draft.validate_eq, Company.Flaws.verdict_ok_iff] at hd
    have hfree : r.find? id = none := hfresh id (huv hid)
    rcases hstored with ⟨hok, rfl⟩ | ⟨e, he, -, -⟩
    · rw [Registry.find?_eq_update_of_insert hok]
      exact .created hd (huv hid) (huv hnow) hfree rfl
    · obtain ⟨r'', hok⟩ := (Registry.insert_ok_iff (c := .ofDraft id now d)).mpr hfree
      rw [hok] at he
      cases he

theorem answers_get {id : Uuid} : Answers s sub v r.find? (.get (.ok id))
    ((Service.lookup r.find? id).map .company) r.find? := by
  cases hfound : Service.lookup r.find? id with
  | ok c => exact .found (Service.lookup_ok_iff.mp hfound)
  | error e =>
    obtain ⟨hnone, rfl⟩ := Service.lookup_error_iff.mp hfound
    exact .missing rfl hnone

theorem answers_update {p : Company.Patch} {c : Company} {x : Except Failure Company}
    (hr : r.Keyed) (hc : r.find? p.id = some c)
    (h : Program.Ends (Service.update p).run u x) (hu : Leads Registry.Step r u r') (huv : u ⊆ v) :
    Answers s sub v r.find? (.update (.ok p)) (x.map .company) r'.find? := by
  rcases Service.update_effect h hu with ⟨e, hp, rfl, rfl⟩ | ⟨-, hnone, -⟩ |
    ⟨current, now, hp, hcurrent, hnow, hstored⟩
  · rw [Company.Patch.validate_eq] at hp
    obtain ⟨field, message, rest, hflaws, rfl⟩ := Company.Flaws.exists_of_verdict hp
    exact .patchRefused hc hflaws
  · rw [hnone] at hc
    cases hc
  · rw [Company.Patch.validate_eq, Company.Flaws.verdict_ok_iff] at hp
    -- The row is overwritten under the identifier that it has, which is the one it was found under.
    have hid : current.id = p.id := hr p.id current hcurrent
    rcases hstored with ⟨hok, rfl⟩ | ⟨e, he, -, -⟩
    · rw [Registry.find?_eq_update_of_replace hok]
      have hkey : (Service.overwritten p current now).id = p.id := hid
      rw [hkey]
      refine .updated hcurrent hp (huv hnow) ?_
      rw [← hid]
      rfl
    · have hsome : (r.find? (Service.overwritten p current now).id).isSome := by
        show (r.find? current.id).isSome
        rw [hid, hcurrent]
        rfl
      obtain ⟨r'', hok⟩ := Registry.replace_ok_iff.mpr hsome
      rw [hok] at he
      cases he

theorem answers_delete {id : Uuid} {c : Company} {x : Except Failure Unit}
    (hc : r.find? id = some c) (h : Program.Ends (Service.delete id).run u x)
    (hu : Leads Registry.Step r u r') :
    Answers s sub v r.find? (.delete (.ok id)) (x.map fun _ => .deleted) r'.find? := by
  rcases Service.delete_effect h hu with ⟨-, rfl, rfl⟩ | ⟨hnone, -⟩
  · rw [Registry.find?_erase_eq_update]
    exact .deleted hc
  · rw [hnone] at hc
    cases hc

theorem answers_list {f : Company.Filter} (hr : r.Keyed) :
    Answers s sub v r.find? (.list (.ok f))
      (Except.map .listing ((((Page.ofFilter s f).mapError Failure.ofRegistry).map r.page).bind
        fun items => (Except.ok (r.count (.ofFilter f))).map fun total => ⟨items, total⟩))
      r.find? := by
  cases hpage : Page.ofFilter s f with
  | error e => exact .pageRefused hpage
  | ok page =>
    have hcount : r.count (.ofFilter f) = (r.sorted page.criteria page.order).length := by
      rw [Registry.length_sorted, (Page.ofFilter_eq_ok_iff.mp hpage).2.2.1]
    rw [hcount]
    exact .listed hpage (hr.lists_sorted _ _)

end Service

/-! ## Welcome callers -/

/-- Both checks allow what is asked for: the first one the operation, and the second one whatever it is
about, as far as that is there. -/
def Errand.Allowed (g : CompanyGate) (sub : Option Subject) (m : Ledger) : Errand → Prop
  | create (.ok d) => g.evaluator.operations.allows .create sub () ∧
      g.evaluator.objects.allows .create sub (.draft d)
  | get (.ok id) => g.evaluator.operations.allows .detail sub () ∧
      ∀ c, m id = some c → g.evaluator.objects.allows .detail sub (.entity c)
  | list (.ok f) => g.evaluator.operations.allows .list sub () ∧
      g.evaluator.objects.allows .list sub (.filter f)
  | update (.ok p) => g.evaluator.operations.allows .update sub () ∧
      ∀ c, m p.id = some c → g.evaluator.objects.allows .update sub (.entity c)
  | delete (.ok id) => g.evaluator.operations.allows .delete sub () ∧
      ∀ c, m id = some c → g.evaluator.objects.allows .delete sub (.entity c)
  | authorize op => g.evaluator.operations.allows op sub ()
  | _ => False

/-- To the gate, a registry that nobody else uses is hospitable to whoever is not cancelled. -/
theorem hospitable_gateStep {s : PagingSettings} {v : Trace systemSignature}
    {verify : Option String → Except AuthError (Option Subject)} (hv : Attended verify v) :
    Gate.Hospitable (GateStep s v) verify where
  wanted r b r' h := by
    have hr : r' = r := eq_of_gateStep rfl h
    obtain ⟨u, ⟨y, u', rfl, rfl, rfl⟩, hsub, -⟩ := h
    exact ⟨hv.wanted _ (hsub List.mem_cons_self), hr⟩
  verified r c x r' h := by
    have hr : r' = r := eq_of_gateStep rfl h
    obtain ⟨u, ⟨y, u', rfl, rfl, rfl⟩, hsub, -⟩ := h
    exact ⟨hv.verified _ _ (hsub List.mem_cons_self), hr⟩
  consulted _ _ _ _ h := eq_of_gateStep rfl h
  told _ _ _ _ h := eq_of_gateStep rfl h
  logged _ _ _ h := eq_of_gateStep rfl h

/-- A welcome request is answered from the ledger. -/
theorem Errand.answers_of_allowed {g : CompanyGate} {s : PagingSettings} {c : Caller} {e : Errand}
    {sub : Option Subject} {v : Trace systemSignature} {r r' : Registry}
    {x : Except Failure Result} (hr : r.Keyed) (he : e.Allowed g sub r.find?)
    (hattended : Attended (fun _ => .ok sub) v)
    (hfresh : ∀ id, ⟨.freshId, id⟩ ∈ v → r.find? id = none)
    (h : (e.request g s c).carryOut.Ends v x) (hv : Leads Registry.Step r v r') :
    Answers s sub v r.find? e x r'.find? := by
  obtain ⟨t, ht, hlead, -⟩ := exists_atGate h hv
  have hgate := hospitable_gateStep (s := s) hattended
  have hget : ∀ {id z r'}, GateStep s v r ⟨.store (.get id), z⟩ r' →
      z = Service.lookup r.find? id ∧ r' = r := fun hz =>
    ⟨eq_of_gateStep_get hz, eq_of_gateStep rfl hz⟩
  cases e with
  | create input =>
    cases input with
    | error f => cases he
    | ok d =>
      obtain ⟨y, hy, rfl⟩ := Request.ends_carryOut_map.mp ht
      obtain ⟨u, hu, huv, hstore⟩ := Gate.create_welcome hgate rfl he.1 he.2 hy hlead
      exact answers_create hu hstore huv hfresh
  | get input =>
    cases input with
    | error f => cases he
    | ok id =>
      obtain ⟨y, hy, rfl⟩ := Request.ends_carryOut_map.mp ht
      obtain ⟨rfl, rfl⟩ := Gate.get_welcome hgate rfl he.1 (fun _ _ => hget)
        (fun row hrow => he.2 row (Service.lookup_ok_iff.mp hrow)) hy hlead
      exact answers_get
  | list input =>
    cases input with
    | error f => cases he
    | ok f =>
      obtain ⟨y, hy, rfl⟩ := Request.ends_carryOut_map.mp ht
      obtain ⟨rfl, rfl⟩ := Gate.list_welcome hgate rfl he.1 he.2
        (fun _ _ hz => ⟨eq_of_gateStep_list hz, eq_of_gateStep rfl hz⟩)
        (fun _ _ hz => ⟨eq_of_gateStep_count hz, eq_of_gateStep rfl hz⟩) hy hlead
      exact answers_list hr
  | update input =>
    cases input with
    | error f => cases he
    | ok p =>
      obtain ⟨y, hy, rfl⟩ := Request.ends_carryOut_map.mp ht
      rcases Gate.update_welcome hgate rfl he.1 (fun _ _ => hget)
        (fun row hrow => he.2 row (Service.lookup_ok_iff.mp hrow)) hy hlead with
        ⟨f, hf, rfl, rfl⟩ | ⟨c, hc, u, hu, huv, hstore⟩
      · obtain ⟨hnone, rfl⟩ := Service.lookup_error_iff.mp hf
        exact .missing rfl hnone
      · exact answers_update hr (Service.lookup_ok_iff.mp hc) hu hstore huv
  | delete input =>
    cases input with
    | error f => cases he
    | ok id =>
      obtain ⟨y, hy, rfl⟩ := Request.ends_carryOut_map.mp ht
      rcases Gate.delete_welcome hgate rfl he.1 (fun _ _ => hget)
        (fun row hrow => he.2 row (Service.lookup_ok_iff.mp hrow)) hy hlead with
        ⟨f, hf, rfl, rfl⟩ | ⟨c, hc, u, hu, huv, hstore⟩
      · obtain ⟨hnone, rfl⟩ := Service.lookup_error_iff.mp hf
        exact .missing rfl hnone
      · exact answers_delete (Service.lookup_ok_iff.mp hc) hu hstore
  | authorize op =>
    obtain ⟨y, hy, rfl⟩ := Request.ends_carryOut_map.mp ht
    obtain ⟨rfl, rfl⟩ := Gate.authorize_welcome hgate rfl he hy hlead
    exact .admitted

namespace Visit

/-- A visit that nobody cancels, of a caller who is this subject, may do what is asked for and stays.
An identifier that is given out in it is not in use. -/
structure Welcomed (g : CompanyGate) (s : PagingSettings) (sub : Option Subject) (r : Registry)
    (visit : Visit) (r' : Registry) : Prop where
  step : visit.Step g s r r'
  attended : Attended (fun _ => .ok sub) visit.said
  stayed : .leave ∉ visit.course
  fresh : ∀ id, ⟨.freshId, id⟩ ∈ visit.said → r.find? id = none
  allowed : visit.errand.Allowed g sub r.find?

/-- A visit whose caller is this subject and is answered from a ledger. -/
def Answered (s : PagingSettings) (m : Ledger) (visit : Visit) (m' : Ledger) : Prop :=
  ∃ sub answer, Attended (fun _ => .ok sub) visit.said ∧ visit.got = some answer ∧
    Answers s sub visit.said m visit.errand answer m'

/-- What a visit has written under an identifier, if anything: a company, or that there is none. -/
def wrote (id : Uuid) (visit : Visit) : Option (Option Company) :=
  match visit.errand, visit.got with
  | .create _, some (.ok (.company row)) => if row.id = id then some (some row) else none
  | .update _, some (.ok (.company row)) => if row.id = id then some (some row) else none
  | .delete (.ok key), some (.ok .deleted) => if key = id then some none else none
  | _, _ => none

variable {g : CompanyGate} {s : PagingSettings} {sub : Option Subject} {r r' : Registry}
  {m m' : Ledger} {visit : Visit} {id : Uuid}

theorem Welcomed.answered (hr : r.Keyed) (h : visit.Welcomed g s sub r r') :
    visit.Answered s r.find? r'.find? := by
  rcases Process.carried_of_steps h.step.course with ⟨-, hleave, -⟩ | ⟨x, hend, hgot, -⟩
  · exact absurd hleave h.stayed
  · exact ⟨sub, x, h.attended, hgot h.stayed,
      Errand.answers_of_allowed hr h.allowed h.attended h.fresh hend h.step.registry⟩

/-- A visit that is answered with a failure has written nothing. -/
theorem wrote_of_failed {f : Failure} (h : visit.got = some (.error f)) : visit.wrote id = none := by
  unfold wrote
  split
  · simp_all
  · simp_all
  · simp_all
  · rfl

/-- A visit leaves under every identifier what it has written there, or what was there before. -/
theorem Answered.find_eq (h : visit.Answered s m m') : m' id = (visit.wrote id).getD (m id) := by
  obtain ⟨c, e, k, got⟩ := visit
  obtain ⟨sub, answer, -, rfl, hanswers⟩ := h
  cases hanswers with
  | draftRefused _ | missing _ _ | patchRefused _ _ | pageRefused _ =>
    rw [wrote_of_failed rfl]
    rfl
  | found _ | listed _ _ | admitted => rfl
  | @created d key now row _ _ _ _ hrow =>
    have hid : row.id = key := by rw [hrow]
    by_cases hkey : key = id
    · simp [wrote, hid, hkey]
    · simp [wrote, hid, hkey, Ne.symm hkey]
  | @updated p _ row _ _ _ _ hrow =>
    have hid : row.id = p.id := by rw [hrow]
    by_cases hkey : p.id = id
    · simp [wrote, hid, hkey]
    · simp [wrote, hid, hkey, Ne.symm hkey]
  | @deleted key _ _ =>
    by_cases hkey : key = id
    · simp [wrote, hkey]
    · simp [wrote, hkey, Ne.symm hkey]

/-- What a visit to get a company is answered. -/
theorem Answered.got_eq (h : visit.Answered s m m') (he : visit.errand = .get (.ok id)) :
    visit.got = some ((Service.lookup m id).map .company) := by
  obtain ⟨c, e, k, got⟩ := visit
  obtain ⟨sub, answer, -, rfl, hanswers⟩ := h
  obtain rfl : e = .get (.ok id) := he
  cases hanswers with
  | found hstored =>
    rw [Service.lookup_ok_iff.mpr hstored]
    rfl
  | missing habout habsent =>
    cases habout
    rw [Service.lookup_error_iff.mpr ⟨habsent, rfl⟩]
    rfl

/-- Whoever else is asked, there is a visit for whatever is allowed. -/
theorem exists_welcomed (g : CompanyGate) (s : PagingSettings)
    (outside : (q : SystemCall) → q.Answer) (r : Registry) (c : Caller) (e : Errand)
    (hwanted : outside .poll = false) (hverified : ∀ token, outside (.verify token) = .ok sub)
    (hfresh : r.find? (outside .freshId) = none) (he : e.Allowed g sub r.find?) :
    ∃ visit : Visit, visit.caller = c ∧ visit.errand = e ∧
      visit.Welcomed g s sub r ((e.request g s c).carryOut.walk (Registry.answer outside) r).2.2 ∧
      visit.got = some ((e.request g s c).carryOut.walk (Registry.answer outside) r).2.1 := by
  obtain ⟨visit, hstep, rfl, rfl, hstay, hsaid, hgot⟩ := exists_visit g s outside r c e
  -- Every question of the walk but those to the registry is answered by the others.
  have hanswer : ∀ a ∈ visit.said, ∃ r₁ r₂, Registry.answer outside r₁ a.question = (a.answer, r₂) := by
    rw [hsaid]
    intro a ha
    exact (Program.leads_walk ..).exists_step ha
  refine ⟨visit, rfl, rfl, ⟨hstep, ⟨?_, ?_⟩, hstay, ?_, he⟩, hgot⟩
  · intro b hb
    obtain ⟨r₁, r₂, h⟩ := hanswer _ hb
    exact (congrArg Prod.fst h).symm.trans hwanted
  · intro token x hx
    obtain ⟨r₁, r₂, h⟩ := hanswer _ hx
    exact (congrArg Prod.fst h).symm.trans (hverified token)
  · intro id hid
    obtain ⟨r₁, r₂, h⟩ := hanswer _ hid
    have hgiven : outside .freshId = id := congrArg Prod.fst h
    rw [← hgiven]
    exact hfresh

end Visit

/-! ## Visits one after the other -/

/-- What stands under every identifier after visits: the last of them that wrote there decides, and
if none did it is what stood there before. -/
def lastWritten (m : Ledger) (visits : List Visit) : Ledger :=
  fun id => visits.foldl (fun found visit => (visit.wrote id).getD found) (m id)

theorem eq_lastWritten {s : PagingSettings} {m m' : Ledger} {visits : List Visit}
    (h : Leads (Visit.Answered s) m visits m') : m' = lastWritten m visits := by
  funext id
  induction h with
  | nil => rfl
  | @cons m m₁ m' visit visits hvisit _ ih =>
    have hfirst : m₁ id = (visit.wrote id).getD (m id) := hvisit.find_eq
    rw [ih, lastWritten, hfirst]
    rfl

/-- **Answers refine a ledger.** Visits of welcome callers, one after the other, in front of a registry
with every company under its own identifier: they are answered as from a ledger that is kept next to
the registry, and afterwards what the registry holds is what the ledger holds. In particular whoever
gets a company is answered with the company as it was last written, exactly, or that it is missing.
And another visit can always follow, whatever is asked for, if it is allowed. -/
theorem answers_refine_ledger {g : CompanyGate} {s : PagingSettings} {r r' : Registry}
    {visits : List Visit} (hr : r.Keyed)
    (h : Leads (fun r visit r' => ∃ sub, visit.Welcomed g s sub r r') r visits r') :
    Leads (Visit.Answered s) r.find? visits r'.find? ∧
      (∀ before visit after id, visits = before ++ visit :: after → visit.errand = .get (.ok id) →
        visit.got = some ((Service.lookup (lastWritten r.find? before) id).map .company)) ∧
      ∀ c e sub id, e.Allowed g sub r'.find? → r'.find? id = none →
        ∃ visit : Visit, ∃ r'', visit.caller = c ∧ visit.errand = e ∧ visit.Welcomed g s sub r' r'' := by
  have hanswered : Leads (Visit.Answered s) r.find? visits r'.find? := by
    induction h with
    | nil r => exact .nil _
    | cons hvisit _ ih =>
      obtain ⟨sub, hwelcome⟩ := hvisit
      exact .cons (hwelcome.answered hr) (ih (hwelcome.step.keyed hr))
  refine ⟨hanswered, ?_, ?_⟩
  · rintro before visit after id rfl hget
    obtain ⟨m, hbefore, hrest⟩ := leads_append.mp hanswered
    obtain ⟨m₁, hvisit, -⟩ := leads_cons.mp hrest
    rw [← eq_lastWritten hbefore]
    exact hvisit.got_eq hget
  · intro c e sub id he hid
    let outside : (q : SystemCall) → q.Answer
      | .verify _ => .ok sub
      | .freshId => id
      | q => Traffic.calm q
    obtain ⟨visit, hc, herrand, hwelcome, -⟩ :=
      Visit.exists_welcomed g s outside r' c e rfl (fun _ => rfl) hid he
    exact ⟨visit, _, hc, herrand, hwelcome⟩

/-- A company is registered, and then anybody who gets it sees that it is. -/
theorem answers_refine_ledger_registered : ∃ first second : Visit, ∃ r',
    Leads (fun r visit r' => ∃ sub, visit.Welcomed Traffic.unguarded .standard sub r r')
      (Registry.sole Traffic.plainCompany) [first, second] r' ∧
    first.errand = .update (.ok Traffic.registering) ∧
    second.errand = .get (.ok Traffic.plainCompany.id) ∧
    second.got = some (.ok (.company { Traffic.plainCompany with registered := true })) := by
  obtain ⟨first, -, hupdate, hfirst, hgot⟩ := Visit.exists_welcomed Traffic.unguarded .standard
    Traffic.calm (Registry.sole Traffic.plainCompany) .anonymous (.update (.ok Traffic.registering))
    rfl (fun _ => rfl) rfl ⟨rfl, fun _ _ => rfl⟩
  have hkeyed := Registry.keyed_sole Traffic.plainCompany
  obtain ⟨-, -, hnext⟩ := answers_refine_ledger hkeyed (.cons ⟨none, hfirst⟩ (.nil _))
  obtain ⟨second, r', -, hget, hsecond⟩ := hnext .anonymous (.get (.ok Traffic.plainCompany.id)) none
    default ⟨rfl, fun _ _ => rfl⟩ rfl
  have hlead : Leads (fun r visit r' => ∃ sub, visit.Welcomed Traffic.unguarded .standard sub r r')
      (Registry.sole Traffic.plainCompany) [first, second] r' :=
    .cons ⟨none, hfirst⟩ (.cons ⟨none, hsecond⟩ (.nil r'))
  obtain ⟨-, hread, -⟩ := answers_refine_ledger hkeyed hlead
  have hwrote : first.wrote Traffic.plainCompany.id =
      some (some { Traffic.plainCompany with registered := true }) := by
    unfold Visit.wrote
    rw [hupdate, hgot]
    rfl
  refine ⟨first, second, r', hlead, hupdate, hget, ?_⟩
  rw [hread [first] second [] _ rfl hget]
  simp [lastWritten, hwrote, Service.lookup, Except.map]

end Gatehouse
