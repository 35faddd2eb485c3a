import Gatehouse.Proofs.Company.Errand
import Gatehouse.Proofs.Company.Flaws
import Mathlib.Data.List.Nodup

/-!
# Where rows come from

Any number of calls on the service, side by side, in front of one registry. Every company that is
stored at some moment has a lineage: it was there at first, or it was inserted from a draft without
flaws, or it was stored in place of a company that has a lineage itself, by a patch without flaws.

An update stores what it makes of the row that it has read, however long ago that was and whatever has
become of the row meanwhile. So lineages go back to the moment of the reading, and what is proved
along them holds of stale rows as well.
-/

namespace Gatehouse

/-! ## Sound companies -/

namespace Company

/-- The fields of a company are as they have to be. -/
structure Sound (c : Company) : Prop where
  named : 1 ≤ c.name.length ∧ c.name.length ≤ 15
  described : c.description.length ≤ 3000
  employing : c.employees ≠ 0

theorem sound_ofDraft {d : Draft} (h : d.flaws = []) (id : Uuid) (now : Timestamp) :
    (ofDraft id now d).Sound := by
  obtain ⟨hname, hrest⟩ := List.append_eq_nil_iff.mp h
  obtain ⟨hdescription, hemployees⟩ := List.append_eq_nil_iff.mp hrest
  exact ⟨nameFlaws_eq_nil_iff.mp hname, descriptionFlaws_eq_nil_iff.mp hdescription,
    employeesFlaws_eq_nil_iff.mp hemployees⟩

/-- What is provided has no flaws, or the old value stays. -/
theorem getD_of_flawless {α : Type} {flaws : α → Flaws} {P : α → Prop} {a : Option α} {old : α}
    (h : (a.map flaws).getD [] = []) (hP : ∀ x, flaws x = [] → P x) (hold : P old) :
    P (a.getD old) := by
  cases a with
  | none => exact hold
  | some x => exact hP x h

/-- A patch is checked only as far as it goes, which is as far as it changes a company. -/
theorem Sound.overwritten {c : Company} (hc : c.Sound) {p : Patch} (h : p.flaws = [])
    (now : Timestamp) : (Service.overwritten p c now).Sound := by
  obtain ⟨-, hfields⟩ := List.append_eq_nil_iff.mp h
  obtain ⟨hname, hrest⟩ := List.append_eq_nil_iff.mp hfields
  obtain ⟨hdescription, hemployees⟩ := List.append_eq_nil_iff.mp hrest
  exact ⟨getD_of_flawless hname (fun _ => nameFlaws_eq_nil_iff.mp) hc.named,
    getD_of_flawless hdescription (fun _ => descriptionFlaws_eq_nil_iff.mp) hc.described,
    getD_of_flawless hemployees (fun _ => employeesFlaws_eq_nil_iff.mp) hc.employing⟩

end Company

/-- Every company is stored under its own identifier, sound, and not changed before it was created. -/
structure Registry.Sound (r : Registry) : Prop where
  keyed : r.Keyed
  sound : ∀ id c, r.find? id = some c → c.Sound
  dated : ∀ id c, r.find? id = some c → c.createdAt.instant ≤ c.updatedAt.instant

theorem Registry.sound_empty : Registry.empty.Sound where
  keyed := Registry.keyed_empty
  sound _ _ h := by cases h
  dated _ _ h := by cases h

/-! ## What steps leave in the registry -/

/-- What is found after a company was stored is this company, or was there before. -/
theorem Registry.found_of_written {r r' : Registry} {id : Uuid} {c row : Company}
    (hrow : r'.find? id = if row.id = id then some row else r.find? id)
    (h : r'.find? id = some c) : r.find? id = some c ∨ c = row := by
  rw [hrow] at h
  by_cases hid : row.id = id
  · rw [if_pos hid] at h
    exact .inr (Option.some.inj h).symm
  · rw [if_neg hid] at h
    exact .inl h

namespace RegistryCall

variable {r : Registry} {id : Uuid} {c row : Company}

theorem stored_of_insert (h : ((insert row).perform r).2.find? id = some c) :
    r.find? id = some c ∨ (c = row ∧ ((insert row).perform r).1 = .ok row) := by
  rw [perform] at h ⊢
  cases hins : r.insert row with
  | error e =>
    rw [hins] at h
    exact .inl h
  | ok r' =>
    rw [hins] at h
    exact (Registry.found_of_written (Registry.find?_insert hins) h).imp_right fun hc => ⟨hc, rfl⟩

theorem stored_of_replace (h : ((replace row).perform r).2.find? id = some c) :
    r.find? id = some c ∨ c = row := by
  rw [perform] at h
  cases hrep : r.replace row with
  | error e =>
    rw [hrep] at h
    exact .inl h
  | ok r' =>
    rw [hrep] at h
    exact Registry.found_of_written (Registry.find?_replace hrep) h

theorem stored_of_remove {key : Uuid} (h : ((remove key).perform r).2.find? id = some c) :
    r.find? id = some c := by
  rw [perform, Registry.find?_erase] at h
  by_cases hid : key = id
  · rw [if_pos hid] at h
    cases h
  · rwa [if_neg hid] at h

end RegistryCall

/-! ## Calls side by side -/

namespace Service

open Attempt

/-- A payload that is refused is the end of a call. -/
theorem accepted_of_begins {α : Type} {x : Except RegistryError Unit} {rest : Part α}
    {t : Trace systemSignature} {a : systemSignature.Act}
    (h : Program.Begins (orFail x >>= fun _ => rest).run (t ++ [a])) : x = .ok () := by
  rcases begins_bind_concat h with hvalid | ⟨_, t₁, t₂, hvalid, -⟩
  · exact absurd hvalid not_begins_orFail_concat
  · exact (yields_orFail.mp hvalid).2

/-- How a call that has asked these questions may change the registry: it inserts a row made from a
draft without flaws, it stores what a patch without flaws makes of a row that it has read, or it
removes a row. -/
inductive Change (t : Trace systemSignature) : RegistryCall → Prop where
  | insert {d : Company.Draft} {now : Timestamp} {id : Uuid} (sound : d.flaws = [])
    (asked : t = [⟨.now, now⟩, ⟨.freshId, id⟩]) : Change t (.insert (.ofDraft id now d))
  | replace {p : Company.Patch} {c : Company} {now : Timestamp} (sound : p.flaws = [])
    (asked : t = rereadRun p c now) : Change t (.replace (overwritten p c now))
  | remove {id : Uuid} : Change t (.remove id)

theorem change_of_begins {s : PagingSettings} {sc : StoreCall Company.resource}
    {t : Trace systemSignature} {call : RegistryCall} {x : call.Answer}
    (h : (store s sc).Begins (t ++ [⟨.registry call, x⟩])) (hm : call.mutates = true) :
    Change t call := by
  obtain ⟨-, -, hchange⟩ := begins_store h hm
  rcases hchange with ⟨d, row, rfl, -⟩ | ⟨p, c, now, rfl, hasked, rfl⟩ | ⟨id, -, -, rfl⟩
  · obtain ⟨now, id, hasked, rfl⟩ := begins_create h
    have hvalid : d.validate = .ok () := accepted_of_begins h
    rw [Company.Draft.validate_eq, Company.Flaws.verdict_ok_iff] at hvalid
    exact .insert hvalid hasked
  · have hvalid : p.validate = .ok () := accepted_of_begins h
    rw [Company.Patch.validate_eq, Company.Flaws.verdict_ok_iff] at hvalid
    exact .replace hvalid hasked
  · exact .remove

end Service

namespace Traffic

variable {s : PagingSettings} {r : Registry} {calls : Nat → Option (StoreCall Company.resource)}
  {h h₁ h₂ k : History} {w : Traffic (Σ call : StoreCall Company.resource, call.Answer)} {i : Nat}
  {id : Uuid} {c : Company}

/-- Calls on the service in front of a registry. -/
def calling (s : PagingSettings) (r : Registry)
    (calls : Nat → Option (StoreCall Company.resource)) :
    Traffic (Σ call : StoreCall Company.resource, call.Answer) :=
  handedIn r fun i => (calls i).map fun call =>
    (Service.store s call).bind fun x => .done (.answer ⟨call, x⟩)

/-- Whoever asks something is one of the calls, and what it has asked is a run of this call. -/
theorem begins_of_calling (hs : Steps (calling s r calls) h w) {a : systemSignature.Act}
    (ha : (i, .act a) ∈ h) : ∃ call, calls i = some call ∧
      (Service.store s call).Begins (said i h) := by
  obtain ⟨request, hrequest, hbegins⟩ := begins_of_handedIn hs ha
  obtain ⟨call, hcall, rfl⟩ := Option.map_eq_some_iff.mp hrequest
  refine ⟨call, hcall, ?_⟩
  rw [Request.carryOut, Program.bind_assoc] at hbegins
  rcases Program.begins_bind.mp hbegins with hrun | ⟨x, t, hend, u, hsaid, hrest⟩
  · exact hrun
  · obtain rfl : u = [] := hrest
    rw [hsaid, List.append_nil]
    exact hend.begins

theorem change_of_calling {call : RegistryCall} {x : call.Answer}
    (hs : Steps (calling s r calls) (h₁ ++ (i, .act ⟨.registry call, x⟩) :: h₂) w)
    (hm : call.mutates = true) : Service.Change (said i h₁) call := by
  obtain ⟨sc, -, hbegins⟩ := begins_of_calling hs (List.mem_append_right h₁ List.mem_cons_self)
  rw [said_append, said_cons_self, List.append_cons] at hbegins
  exact Service.change_of_begins hbegins.of_append hm

/-! ## Lineages -/

/-- How a company came to be stored. -/
inductive Lineage (r : Registry) : History → Company → Prop where
  | initial {h : History} {id : Uuid} {c : Company} (stored : r.find? id = some c) : Lineage r h c
  | inserted {h : History} {i : Nat} {d : Company.Draft} {now : Timestamp} {id : Uuid}
    (sound : d.flaws = []) (read : (i, .act ⟨.now, now⟩) ∈ h)
    (stored : (i, .act ⟨.registry (.insert (.ofDraft id now d)), .ok (.ofDraft id now d)⟩) ∈ h) :
    Lineage r h (.ofDraft id now d)
  | overwritten {h before after : History} {i : Nat} {p : Company.Patch} {c : Company}
    {now : Timestamp} (source : Lineage r before c) (sound : p.flaws = [])
    (split : h = before ++ (i, .act ⟨.now, now⟩) :: after) :
    Lineage r h (Service.overwritten p c now)

theorem Lineage.append (hc : Lineage r h c) (k : History) : Lineage r (h ++ k) c := by
  cases hc with
  | initial stored => exact .initial stored
  | inserted sound read stored =>
    exact .inserted sound (List.mem_append_left k read) (List.mem_append_left k stored)
  | overwritten source sound split =>
    rw [split, List.append_assoc]
    exact .overwritten source sound rfl

/-- The row that an update has read was stored when it was read, and the clock was read later. -/
theorem reread_of_said {p : Company.Patch} {now : Timestamp} (hs : Steps (calling s r calls) k w)
    (hsaid : said i k = Service.rereadRun p c now) : ∃ k₁ l₁ l₂,
      k = k₁ ++ l₁ ++ (i, .act ⟨.now, now⟩) :: l₂ ∧ (∃ w', Steps (calling s r calls) k₁ w') ∧
        (r.following k₁).find? p.id = some c := by
  obtain ⟨k₁, k₂, rfl, -, hsaid₂⟩ := exists_split_of_said (t := []) hsaid
  have hnow : (i, .act ⟨.now, now⟩) ∈ k₂ := mem_said.mp (hsaid₂ ▸ List.mem_cons_self)
  obtain ⟨l₁, l₂, rfl⟩ := List.append_of_mem hnow
  have htold : (.ok (some c) : Except RegistryError (Option Company)) =
      .ok ((r.following k₁).find? p.id) := hs.told
  obtain ⟨w', hk₁, -⟩ := hs.split
  refine ⟨k₁, (i, .act ⟨.registry (.find p.id), .ok (some c)⟩) :: l₁, l₂, ?_, ⟨w', hk₁⟩,
    (Except.ok.inj htold).symm⟩
  rw [List.append_assoc, List.cons_append]

/-- Whatever is stored at some moment has a lineage. -/
theorem lineage_of_find (hs : Steps (calling s r calls) h w)
    (hc : (r.following h).find? id = some c) : Lineage r h c := by
  -- A row that an update has read was stored at an earlier moment, not only at the one before.
  induction hn : h.length using Nat.strongRecOn generalizing h w id c with
  | ind n ih =>
    subst hn
    rcases List.eq_nil_or_concat h with rfl | ⟨k, ⟨i, e⟩, rfl⟩
    · exact .initial hc
    rw [List.concat_eq_append] at hs hc ih ⊢
    obtain ⟨w₁, hk, -⟩ := hs.split
    have hkept : (r.following k).find? id = some c → Lineage r (k ++ [(i, e)]) c := fun hfind =>
      (ih k.length (by simp) hk hfind rfl).append _
    rw [Registry.following_append, Registry.following_cons, Registry.following_nil] at hc
    cases ht : e.touches id with
    | false => exact hkept (by rwa [Registry.find?_after ht] at hc)
    | true =>
      unfold Happening.touches at ht
      split at ht
      · rename_i call x
        have hm : call.mutates = true := RegistryCall.mutates_of_touches ht
        cases change_of_calling hs hm with
        | @insert d now key sound asked =>
          rcases RegistryCall.stored_of_insert hc with hold | ⟨rfl, hok⟩
          · exact hkept hold
          · obtain rfl : x = .ok (.ofDraft key now d) := hs.told.trans hok
            have hread : (i, .act ⟨.now, now⟩) ∈ k := mem_said.mp (by simp [asked])
            exact .inserted sound (List.mem_append_left _ hread) (by simp)
        | @replace p found now sound asked =>
          rcases RegistryCall.stored_of_replace hc with hold | rfl
          · exact hkept hold
          · obtain ⟨k₁, l₁, l₂, rfl, ⟨w₂, hk₁⟩, hfound⟩ := reread_of_said hk asked
            have hsource : Lineage r k₁ found := by
              refine ih k₁.length ?_ hk₁ hfound rfl
              simp only [List.length_append, List.length_cons]
              omega
            rw [List.append_assoc (k₁ ++ l₁)]
            exact .overwritten (hsource.append l₁) sound rfl
        | remove => exact hkept (RegistryCall.stored_of_remove hc)
      · cases ht

/-! ## What holds along lineages -/

theorem Lineage.sound (hr : r.Sound) (hc : Lineage r h c) : c.Sound := by
  induction hc with
  | initial stored => exact hr.sound _ _ stored
  | inserted sound _ _ => exact Company.sound_ofDraft sound _ _
  | overwritten _ sound _ ih => exact ih.overwritten sound _

/-- A company was there under an identifier at first or was inserted under it, created at this time. -/
inductive Born (r : Registry) (h : History) (id : Uuid) (t : Timestamp) : Prop where
  | initial {c : Company} (stored : r.find? id = some c) (time : c.createdAt = t)
  | inserted {i : Nat} {row : Company}
    (stored : (i, .act ⟨.registry (.insert row), .ok row⟩) ∈ h) (key : row.id = id)
    (time : row.createdAt = t)

theorem Born.append {t : Timestamp} (hb : Born r h id t) (k : History) : Born r (h ++ k) id t := by
  cases hb with
  | initial stored time => exact .initial stored time
  | inserted stored key time => exact .inserted (List.mem_append_left k stored) key time

/-- Whoever changes a company keeps the time at which it was created. -/
theorem Lineage.born (hr : r.Sound) (hc : Lineage r h c) : Born r h c.id c.createdAt := by
  induction hc with
  | initial stored =>
    rw [hr.keyed _ _ stored]
    exact .initial stored rfl
  | inserted _ _ stored => exact .inserted stored rfl rfl
  | overwritten _ _ split ih =>
    rw [split]
    exact ih.append _

/-! ### Clocks -/

/-- The readings of the clock, the first one first. -/
def readings (h : History) : List Timestamp :=
  h.filterMap fun e => match e.2 with
    | .act ⟨.now, t⟩ => some t
    | _ => none

/-- The clock never goes back. -/
def Forward (h : History) : Prop := (readings h).Pairwise fun a b => a.instant ≤ b.instant

theorem mem_readings {t : Timestamp} (ht : (i, .act ⟨.now, t⟩) ∈ h) : t ∈ readings h :=
  List.mem_filterMap.mpr ⟨_, ht, rfl⟩

theorem readings_append (h k : History) : readings (h ++ k) = readings h ++ readings k :=
  List.filterMap_append ..

/-- The time at which a company was created is one that it had at first or one that the clock showed. -/
theorem Lineage.read (hr : r.Sound) (hc : Lineage r h c) :
    (∃ c₀, r.find? c.id = some c₀ ∧ c₀.createdAt = c.createdAt) ∨ c.createdAt ∈ readings h := by
  induction hc with
  | @initial h id c stored =>
    rw [hr.keyed _ _ stored]
    exact .inl ⟨c, stored, rfl⟩
  | inserted _ read _ => exact .inr (mem_readings read)
  | overwritten _ _ split ih =>
    rw [split, readings_append]
    exact ih.imp_right (List.mem_append_left _)

/-- An update reads the clock after it has read the row, so it never dates a row before its creation,
unless the clock goes back or has not come yet to where the row was created. -/
theorem Lineage.dated (hr : r.Sound) (hc : Lineage r h c) (hforward : Forward h)
    (hpast : ∀ c₀, r.find? c.id = some c₀ → ∀ t ∈ readings h, c₀.createdAt.instant ≤ t.instant) :
    c.createdAt.instant ≤ c.updatedAt.instant := by
  cases hc with
  | initial stored => exact hr.dated _ _ stored
  | inserted _ _ _ => exact Int.le_refl _
  | @overwritten _ before after i p c now source _ split =>
    have hnow : now ∈ readings ((i, .act ⟨.now, now⟩) :: after) := mem_readings List.mem_cons_self
    rw [split, readings_append] at hpast
    rw [Forward, split, readings_append] at hforward
    show c.createdAt.instant ≤ now.instant
    rcases source.read hr with ⟨c₀, hstored, htime⟩ | hread
    · rw [← htime]
      exact hpast c₀ hstored now (List.mem_append_right _ hnow)
    · exact (List.pairwise_append.mp hforward).2.2 _ hread _ hnow

/-! ### Identifiers -/

/-- The identifiers that are given out. -/
def given (h : History) : List Uuid :=
  h.filterMap fun e => match e.2 with
    | .act ⟨.freshId, id⟩ => some id
    | _ => none

/-- No identifier is given out twice, and none that was in use at first. -/
structure Unrepeated (r : Registry) (h : History) : Prop where
  nodup : (given h).Nodup
  unused : ∀ id ∈ given h, r.find? id = none

theorem mem_given (hid : (i, .act ⟨.freshId, id⟩) ∈ h) : id ∈ given h :=
  List.mem_filterMap.mpr ⟨_, hid, rfl⟩

theorem eq_of_given {j : Nat} (hn : (given h).Nodup) (hi : (i, .act ⟨.freshId, id⟩) ∈ h)
    (hj : (j, .act ⟨.freshId, id⟩) ∈ h) : i = j := by
  obtain ⟨h₁, h₂, rfl⟩ := List.append_of_mem hi
  have hgiven : given (h₁ ++ (i, .act ⟨.freshId, id⟩) :: h₂) = given h₁ ++ id :: given h₂ :=
    List.filterMap_append ..
  rw [hgiven, List.nodup_middle, List.nodup_cons, List.mem_append, not_or] at hn
  rcases List.mem_append.mp hj with hj | hj
  · exact absurd (mem_given hj) hn.1.1
  · rcases List.mem_cons.mp hj with heq | hj
    · exact (congrArg Prod.fst heq).symm
    · exact absurd (mem_given hj) hn.1.2

/-- A call that inserts a row has asked for the time and for the identifier, and this is its only
insertion. -/
theorem said_of_insert {row : Company} {x : Except RegistryError Company}
    (hs : Steps (calling s r calls) h w) (hrow : (i, .act ⟨.registry (.insert row), x⟩) ∈ h) :
    ∃ now rest, said i h =
      ⟨.now, now⟩ :: ⟨.freshId, row.id⟩ :: ⟨.registry (.insert row), x⟩ :: rest := by
  obtain ⟨h₁, h₂, rfl⟩ := List.append_of_mem hrow
  cases change_of_calling hs rfl with
  | @insert d now id _ asked =>
    refine ⟨now, said i h₂, ?_⟩
    rw [said_append, said_cons_self, asked]
    rfl

/-- Under an identifier that is given out only once there is one creation. -/
theorem Born.unique {t t' : Timestamp} (hs : Steps (calling s r calls) h w) (hu : Unrepeated r h)
    (hb : Born r h id t) (hb' : Born r h id t') : t = t' := by
  have hgiven : ∀ {i row}, (i, .act ⟨.registry (.insert row), .ok row⟩) ∈ h →
      (i, .act ⟨.freshId, row.id⟩) ∈ h := by
    intro i row hrow
    obtain ⟨now, rest, hsaid⟩ := said_of_insert hs hrow
    exact mem_said.mp (by simp [hsaid])
  cases hb with
  | @initial c stored time =>
    cases hb' with
    | initial stored' time' =>
      rw [stored] at stored'
      cases stored'
      exact time.symm.trans time'
    | inserted stored' key _ =>
      have hnone := hu.unused _ (mem_given (hgiven stored'))
      rw [key, stored] at hnone
      cases hnone
  | @inserted i row stored key time =>
    cases hb' with
    | initial stored' _ =>
      have hnone := hu.unused _ (mem_given (hgiven stored))
      rw [key, stored'] at hnone
      cases hnone
    | @inserted j row' stored' key' time' =>
      have hi := hgiven stored
      have hj := hgiven stored'
      rw [key] at hi
      rw [key'] at hj
      obtain rfl : i = j := eq_of_given hu.nodup hi hj
      obtain ⟨now, rest, hsaid⟩ := said_of_insert hs stored
      obtain ⟨now', rest', hsaid'⟩ := said_of_insert hs stored'
      rw [hsaid] at hsaid'
      have hrow := (List.cons.inj (List.cons.inj (List.cons.inj hsaid').2).2).1
      cases hrow
      exact time.symm.trans time'

/-- **Rows are upheld.** Any number of calls, with any payloads, in any order of their steps, each of
which may be left at any moment, in front of a registry with sound companies: whatever is stored at
any moment is under its own identifier and sound, and has the time of creation with which it was
inserted there, or that it had at first; if no identifier is given out twice there is only one. If the
clock does not go back, and shows no time before the creation of what was there at first, no company
has been changed before it was created. -/
theorem rows_upheld (hr : r.Sound) (hs : Steps (calling s r calls) h w)
    (hc : w.registry.find? id = some c) :
    c.id = id ∧ c.Sound ∧ Born r h id c.createdAt ∧
      (Unrepeated r h → ∀ t, Born r h id t → t = c.createdAt) ∧
      (Forward h →
        (∀ c₀, r.find? id = some c₀ → ∀ t ∈ readings h, c₀.createdAt.instant ≤ t.instant) →
        c.createdAt.instant ≤ c.updatedAt.instant) := by
  have hregistry : w.registry = r.following h := hs.registry_eq
  rw [hregistry] at hc
  have hlineage : Lineage r h c := lineage_of_find hs hc
  obtain rfl : c.id = id := hr.keyed.following h id c hc
  exact ⟨rfl, hlineage.sound hr, hlineage.born hr,
    fun hu t ht => ht.unique hs hu (hlineage.born hr), hlineage.dated hr⟩

/-- A company is registered and, after the update has read it, another one is created. -/
def upkeep : Nat → Option (StoreCall Company.resource)
  | 0 => some (.update registering)
  | 1 => some (.create plainCompany.toDraft)
  | _ => none

/-- The update reads the row, the other company is created, and then the update stores its own. -/
def maintained :
    History × Traffic (Σ call : StoreCall Company.resource, call.Answer) :=
  exec calm (calling .standard (.sole plainCompany) upkeep)
    ([0] ++ List.replicate 5 1 ++ List.replicate 4 0)

theorem sound_sole (hc : c.Sound) (hd : c.createdAt.instant ≤ c.updatedAt.instant) :
    (Registry.sole c).Sound := by
  have heq : ∀ id d, (Registry.sole c).find? id = some d → d = c := by
    intro id d hfind
    by_cases hid : c.id = id
    · exact (by simpa [Registry.find?, Registry.sole, hid] using hfind : c = d).symm
    · simp [Registry.find?, Registry.sole, hid] at hfind
  refine ⟨Registry.keyed_sole c, fun id d hfind => ?_, fun id d hfind => ?_⟩
  · rwa [heq id d hfind]
  · rwa [heq id d hfind]

/-- The registered company is sound, is still the one that was there at first, and has not been
changed before it was created. -/
theorem rows_upheld_maintained : ∃ c, maintained.2.registry.find? plainCompany.id = some c ∧
    c.registered = true ∧ c.Sound ∧ c.createdAt = plainCompany.createdAt ∧
    c.createdAt.instant ≤ c.updatedAt.instant := by
  have hsound : plainCompany.Sound := ⟨by decide, by decide, by decide⟩
  have hsteps : Steps (calling .standard (.sole plainCompany) upkeep) maintained.1 maintained.2 :=
    steps_exec calm _ _
  have hfound : maintained.2.registry.find? plainCompany.id =
      some { plainCompany with registered := true } := rfl
  obtain ⟨-, hc, -, hborn, hdated⟩ :=
    rows_upheld (sound_sole hsound (Int.le_refl _)) hsteps hfound
  have hgiven : given maintained.1 = [default] := rfl
  have hreadings : readings maintained.1 = [default, default] := rfl
  have hunrepeated : Unrepeated (Registry.sole plainCompany) maintained.1 := by
    refine ⟨by simp [hgiven], ?_⟩
    rw [hgiven]
    intro id hid
    obtain rfl := List.mem_singleton.mp hid
    rfl
  refine ⟨_, hfound, rfl, hc, (hborn hunrepeated _ (.initial rfl rfl)).symm, hdated ?_ ?_⟩
  · simp [Forward, hreadings]
  · intro c₀ hc₀ t ht
    cases hc₀
    rw [hreadings] at ht
    obtain rfl : t = default := by simpa using ht
    exact Int.le_refl _

/-- A company from an hour after the moment at which the calm clock stands. -/
def laterCompany : Company :=
  let later : Timestamp := { (default : Timestamp) with hour := 1, hour_lt := by decide }
  { plainCompany with createdAt := later, updatedAt := later }

/-- The update runs while the clock still stands before the creation of the company. -/
def outdated :
    History × Traffic (Σ call : StoreCall Company.resource, call.Answer) :=
  exec calm (calling .standard (.sole laterCompany) upkeep) (List.replicate 4 0)

/-- A clock that never goes back is not enough: in front of a registry with sound companies, a company
has been changed before it was created. -/
theorem created_after_updated : (Registry.sole laterCompany).Sound ∧
    Steps (calling .standard (.sole laterCompany) upkeep) outdated.1 outdated.2 ∧
    Forward outdated.1 ∧ ∃ c, outdated.2.registry.find? laterCompany.id = some c ∧
      ¬c.createdAt.instant ≤ c.updatedAt.instant := by
  have hsound : laterCompany.Sound := ⟨by decide, by decide, by decide⟩
  have hreadings : readings outdated.1 = [default] := rfl
  refine ⟨sound_sole hsound (Int.le_refl _), steps_exec calm _ _, by simp [Forward, hreadings], ?_⟩
  exact ⟨{ laterCompany with registered := true, updatedAt := default }, rfl, by decide⟩

end Traffic

end Gatehouse
