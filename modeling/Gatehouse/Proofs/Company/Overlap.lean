import Gatehouse.Proofs.Company.Errand

/-!
# Two updates of one company

An update reads the row, applies its patch to what it has read and stores the result in place of
whatever is there. Nothing ties the storing to the reading, since the registry has no locks. So if
two updates of one company succeed, the row is in the end what the later of the two has made of the
row that it had read: it carries both patches if that row was read after the earlier one had stored
its own, and the later patch alone if not.

The vocabulary of the statement is `value` and `value?`, what a company holds and a patch provides,
`Carries`, a row with the values of some patches, and `Precedes` and `Follows`, the order of the
steps of two updates.
-/

namespace Gatehouse

/-! ## Fields -/

namespace Company

/-- The fields that a patch can provide. -/
inductive Field where
  | name
  | description
  | employees
  | registered
  | legalForm

/-- The type of the values of a field. -/
@[reducible] def Field.Value : Field → Type
  | name => String
  | description => String
  | employees => Int32
  | registered => Bool
  | legalForm => LegalForm

/-- What a company holds in a field. -/
def value (c : Company) : (f : Field) → f.Value
  | .name => c.name
  | .description => c.description
  | .employees => c.employees
  | .registered => c.registered
  | .legalForm => c.legalForm

/-- What a patch provides for a field. -/
def Patch.value? (p : Patch) : (f : Field) → Option f.Value
  | .name => p.name
  | .description => p.description
  | .employees => p.employees
  | .registered => p.registered
  | .legalForm => p.legalForm

/-- No field is provided by both patches. -/
def Patch.Disjoint (p q : Patch) : Prop := ∀ f, p.value? f = none ∨ q.value? f = none

/-- A row that holds what these patches provide, and in every other field what it held
originally. -/
structure Carries (original : Company) (patches : List Patch) (row : Company) : Prop where
  provided : ∀ p ∈ patches, ∀ f v, p.value? f = some v → row.value f = v
  kept : ∀ f, (∀ p ∈ patches, p.value? f = none) → row.value f = original.value f
  id_eq : row.id = original.id
  createdAt_eq : row.createdAt = original.createdAt

end Company

open Company Service

variable {p q : Company.Patch} {original row : Company} {now now' : Timestamp}

theorem Company.value_overwritten (p : Company.Patch) (c : Company) (now : Timestamp) (f : Field) :
    (overwritten p c now).value f = (p.value? f).getD (c.value f) := by
  cases f <;> rfl

theorem Company.Carries.symm (h : Carries original [p, q] row) : Carries original [q, p] row where
  provided p' hp' := h.provided p' (by simpa [or_comm] using hp')
  kept f hf := h.kept f (by simpa [and_comm] using hf)
  id_eq := h.id_eq
  createdAt_eq := h.createdAt_eq

/-- An update of the row as it was originally carries its own patch. -/
theorem Company.carries_overwritten : Carries original [p] (overwritten p original now) where
  provided p' hp' f v hv := by
    obtain rfl := List.mem_singleton.mp hp'
    rw [value_overwritten, hv]
    rfl
  kept f hf := by
    rw [value_overwritten, hf p List.mem_cons_self]
    rfl
  id_eq := rfl
  createdAt_eq := rfl

/-- An update of the row that another update has stored carries both patches. -/
theorem Company.carries_overwritten_overwritten (hd : p.Disjoint q) :
    Carries original [p, q] (overwritten q (overwritten p original now) now') where
  provided p' hp' f v hv := by
    rw [value_overwritten, value_overwritten]
    rcases List.mem_pair.mp hp' with rfl | rfl
    · rw [(hd f).resolve_left (by simp [hv]), hv]
      rfl
    · rw [hv]
      rfl
  kept f hf := by
    rw [value_overwritten, value_overwritten, hf p (by simp), hf q (by simp)]
    rfl
  id_eq := rfl
  createdAt_eq := rfl

namespace Traffic

open Errand

variable {g : CompanyGate} {s : PagingSettings} {r : Registry}
  {errands : Nat → Option (Caller × Errand)} {h h₁ h₂ k₁ k₂ : History} {i j : Nat}
  {w : Traffic (Except Failure Result)} {id : Uuid} {c : Caller}

/-! ## The steps of one update -/

/-- A request stores a row in place of another. -/
abbrev stores (i : Nat) (row : Company) (x : (RegistryCall.replace row).Answer) :
    Nat × Happening systemSignature :=
  (i, .act ⟨.registry (.replace row), x⟩)

/-- A request reads the row under a key. -/
abbrev reads (i : Nat) (id : Uuid) (found : (RegistryCall.find id).Answer) :
    Nat × Happening systemSignature :=
  (i, .act ⟨.registry (.find id), found⟩)

/-- Before and after its one change a request leaves every row as it is. -/
theorem touches_of_mutation {call : RegistryCall} {x : call.Answer}
    (hs : Steps (opening g s r errands) (h₁ ++ (i, .act ⟨.registry call, x⟩) :: h₂) w)
    (hm : call.mutates = true) {e : Happening systemSignature}
    (he : (i, e) ∈ h₁ ∨ (i, e) ∈ h₂) : e.touches id = false := by
  rcases he with he | he
  · exact touches_of_harmless (harmless_of_mutation hs hm) he
  · exact touches_of_harmless (harmless_after_mutation hs hm) he

/-- A request makes one change at most. -/
theorem eq_of_mutation {call call' : RegistryCall} {x : call.Answer} {x' : call'.Answer}
    (hs : Steps (opening g s r errands) (h₁ ++ (i, .act ⟨.registry call, x⟩) :: h₂) w)
    (hm : call.mutates = true) (hm' : call'.mutates = true)
    (heq : h₁ ++ (i, .act ⟨.registry call, x⟩) :: h₂ =
      k₁ ++ (i, .act ⟨.registry call', x'⟩) :: k₂) : h₁ = k₁ ∧ h₂ = k₂ := by
  have hbefore : (i, .act ⟨.registry call', x'⟩) ∉ h₁ := not_mem_of_mutation hs hm hm'
  have hafter : (i, .act ⟨.registry call', x'⟩) ∉ h₂ := by
    intro hmem
    have hcall' : call'.mutates = false := harmless_after_mutation hs hm _ (mem_said.mpr hmem)
    simp [hm'] at hcall'
  obtain ⟨hh, -, hk⟩ := (List.append_cons_inj_of_notMem hbefore hafter).mp heq
  exact ⟨hh, hk⟩

/-- An update stores its patch applied to what it has read just before. -/
theorem reread_of_stores {x : (RegistryCall.replace row).Answer} (hr : r.Keyed)
    (hs : Steps (opening g s r errands) (h₁ ++ stores i row x :: h₂) w)
    (hi : errands i = some (c, .update (.ok p))) : ∃ current now k₁ k₂,
      row = overwritten p current now ∧ row.id = p.id ∧
      h₁ = k₁ ++ reads i p.id (.ok (some current)) :: k₂ ∧ said i k₂ = [⟨.now, now⟩] ∧
      (r.following k₁).find? p.id = some current := by
  obtain ⟨c', e, hi', hbegins⟩ := begins_of_opening hs (List.mem_append_right _ List.mem_cons_self)
  cases hi.symm.trans hi'
  rw [said_append, said_cons_self] at hbegins
  obtain ⟨-, ⟨_, h⟩ | ⟨p', _, _, current, now, v, hp', -, hv, hcall⟩ | ⟨_, _, _, h, -⟩⟩ :=
    of_mutation hbegins rfl
  · cases h
  · cases hp'
    cases hcall
    obtain ⟨k₁, k₂, rfl, -, hk₂⟩ := exists_split_of_said hv
    rw [List.append_assoc] at hs
    have hread : (r.following k₁).find? p.id = some current := find?_of_found hs
    have hid : current.id = p.id := hr.following k₁ _ _ hread
    exact ⟨current, now, k₁, k₂, rfl, hid, rfl, hk₂, hread⟩
  · cases h

/-- An update that succeeds has stored a row. -/
theorem exists_stores {result : Result} (hs : Steps (opening g s r errands) h w)
    (hi : errands i = some (c, .update (.ok p)))
    (hdone : w.requests i = .ended (some (.ok result))) :
    ∃ row x h₁ h₂, h = h₁ ++ stores i row (.ok x) :: h₂ := by
  have hown := hs.own i
  rw [hdone] at hown
  simp only [opening, hi] at hown
  obtain ⟨current, now, x, hmem⟩ := replaced_of_ends (Process.ends_of_steps hown)
  obtain ⟨h₁, h₂, heq⟩ := List.append_of_mem (mem_said.mp hmem)
  exact ⟨_, x, h₁, h₂, heq⟩

/-- The row that an update has stored is the row that is there right after. -/
theorem find?_of_stores {x : Company} (hr : r.Keyed)
    (hs : Steps (opening g s r errands) (h₁ ++ stores i row (.ok x) :: h₂) w)
    (hi : errands i = some (c, .update (.ok p))) :
    (r.following (h₁ ++ [stores i row (.ok x)])).find? p.id = some row := by
  obtain ⟨current, now, k₁, k₂, -, hid, -⟩ := reread_of_stores hr hs hi
  rw [← hid, Registry.following_append]
  exact RegistryCall.find?_perform_replace hs.told.symm

/-! ## Two updates -/

/-- One update stores its row before another one does. -/
def Precedes (i j : Nat) (h : History) : Prop :=
  ∃ row x row' x', List.Sublist [stores i row x, stores j row' x'] h

/-- One update reads the row that it changes after another one has stored its own. -/
def Follows (i j : Nat) (id : Uuid) (h : History) : Prop :=
  ∃ row x found row' x' h₁ h₂ h₃ h₄,
    h = h₁ ++ stores i row x :: (h₂ ++ reads j id found :: (h₃ ++ stores j row' x' :: h₄))

/-! ## One after the other -/

section Succession

variable {X Y Z : History} {row₁ row₂ x₁ x₂ : Company} {d : Caller} (hr : r.Keyed)
  (horiginal : r.find? id = some original)
  (hs : Steps (opening g s r errands)
    (X ++ stores i row₁ (.ok x₁) :: (Y ++ stores j row₂ (.ok x₂) :: Z)) w)
  (hi : errands i = some (c, .update (.ok p))) (hj : errands j = some (d, .update (.ok q)))
  (hp : p.id = id) (hq : q.id = id)
  (hothers : ∀ e ∈ X ++ stores i row₁ (.ok x₁) :: (Y ++ stores j row₂ (.ok x₂) :: Z),
    e.1 ≠ i → e.1 ≠ j → e.2.touches id = false)

include hs

/-- The same history, cut where the second row is stored. -/
theorem steps_second : Steps (opening g s r errands)
    ((X ++ stores i row₁ (.ok x₁) :: Y) ++ stores j row₂ (.ok x₂) :: Z) w := by
  simpa using hs

include hothers in
/-- Apart from the two updates nobody touches the row. -/
theorem touches_of_succession (e : Nat × Happening systemSignature)
    (he : e ∈ X ∨ e ∈ Y ∨ e ∈ Z) : e.2.touches id = false := by
  obtain ⟨l, e⟩ := e
  by_cases hli : l = i
  · subst hli
    refine touches_of_mutation hs rfl ?_
    rcases he with he | he | he <;> simp [he]
  by_cases hlj : l = j
  · subst hlj
    refine touches_of_mutation (steps_second hs) rfl ?_
    rcases he with he | he | he <;> simp [he]
  · refine hothers _ ?_ hli hlj
    rcases he with he | he | he <;> simp [he]

include hr horiginal hi hp hothers in
/-- The update that stores its row first has read the row as it was originally. -/
theorem first_of_succession : ∃ now, row₁ = overwritten p original now := by
  obtain ⟨current, now, k₁, k₂, rfl, -, rfl, -, hread⟩ := reread_of_stores hr hs hi
  have hsame : (r.following k₁).find? id = r.find? id :=
    Registry.find?_following fun e he =>
      touches_of_succession hs hothers e (.inl (List.mem_append_left _ he))
  rw [hp, hsame, horiginal] at hread
  cases hread
  exact ⟨now, rfl⟩

/-- The first update has read its row before the second one has stored its own. -/
theorem not_follows_of_succession :
    ¬Follows j i id (X ++ stores i row₁ (.ok x₁) :: (Y ++ stores j row₂ (.ok x₂) :: Z)) := by
  rintro ⟨row, x, found, row', x', l₁, l₂, l₃, l₄, heq⟩
  have hcut : X ++ stores i row₁ (.ok x₁) :: (Y ++ stores j row₂ (.ok x₂) :: Z) =
      (l₁ ++ stores j row x :: (l₂ ++ reads i id found :: l₃)) ++ stores i row' x' :: l₄ := by
    simpa using heq
  obtain ⟨rfl, -⟩ := eq_of_mutation hs rfl rfl hcut
  have hsecond := steps_second hs
  have hearlier : stores j row x ∉ l₁ ++ stores j row x :: (l₂ ++ reads i id found :: l₃) ++
      stores i row₁ (.ok x₁) :: Y := not_mem_of_mutation hsecond rfl rfl
  exact hearlier (by simp)

/-- An update that has only looked at the clock since the other one has stored its row does not
follow it. -/
theorem not_follows_of_said {l : History} {now : Timestamp}
    (hsaid : said j (l ++ stores i row₁ (.ok x₁) :: Y) = [⟨.now, now⟩]) :
    ¬Follows i j id (X ++ stores i row₁ (.ok x₁) :: (Y ++ stores j row₂ (.ok x₂) :: Z)) := by
  rintro ⟨row, x, found, row', x', l₁, l₂, l₃, l₄, heq⟩
  obtain ⟨rfl, -⟩ := eq_of_mutation hs rfl rfl heq
  have hcut : (X ++ stores i row₁ (.ok x₁) :: Y) ++ stores j row₂ (.ok x₂) :: Z =
      (X ++ stores i row x :: (l₂ ++ reads j id found :: l₃)) ++ stores j row' x' :: l₄ := by
    simpa using heq
  obtain ⟨hsecond, -⟩ := eq_of_mutation (steps_second hs) rfl rfl hcut
  have hY : Y = l₂ ++ reads j id found :: l₃ :=
    (List.cons.inj (List.append_cancel_left hsecond)).2
  have hread : ⟨.registry (.find id), found⟩ ∈ said j (l ++ stores i row₁ (.ok x₁) :: Y) :=
    mem_said.mpr (by simp [hY])
  rw [hsaid] at hread
  simp at hread

include hr horiginal hi hj hp hq hothers in
/-- The update that stores its row later has read the row as it was originally, or what the other one
has stored, and this is the case exactly if it follows it. -/
theorem second_of_succession : ∃ now,
    let h := X ++ stores i row₁ (.ok x₁) :: (Y ++ stores j row₂ (.ok x₂) :: Z)
    (row₂ = overwritten q original now ∧ ¬Follows i j id h) ∨
      (row₂ = overwritten q row₁ now ∧ Follows i j id h) := by
  obtain ⟨current, now, k₁, k₂, rfl, -, heq, hk₂, hread⟩ :=
    reread_of_stores hr (steps_second hs) hj
  have hquiet := touches_of_succession hs hothers
  rw [hq] at hread heq
  refine ⟨now, ?_⟩
  rcases List.append_eq_append_iff.mp heq with ⟨_ | ⟨e, l⟩, rfl, hl⟩ | ⟨_ | ⟨e, l⟩, rfl, hl⟩
  · cases (List.cons.inj hl).1
  · -- The row is read after the first update has stored its own.
    obtain ⟨rfl, rfl⟩ := List.cons.inj hl
    have hsame : (r.following (X ++ stores i row₁ (.ok x₁) :: l)).find? id = some row₁ := by
      rw [List.append_cons, Registry.following_append]
      refine (Registry.find?_following fun e he => ?_).trans (hp ▸ find?_of_stores hr hs hi)
      exact hquiet e (.inr (.inl (List.mem_append_left _ he)))
    rw [hsame] at hread
    cases hread
    exact .inr ⟨rfl, row₁, .ok x₁, .ok (some row₁), overwritten q row₁ now, .ok x₂, X, l, k₂, Z,
      by simp⟩
  · cases (List.cons.inj hl).1
  · -- The row is read before the first update has stored its own, and not once more after it.
    obtain ⟨rfl, rfl⟩ := List.cons.inj hl
    have hsame : (r.following k₁).find? id = r.find? id :=
      Registry.find?_following fun e he => hquiet e (.inl (List.mem_append_left _ he))
    rw [hsame, horiginal] at hread
    cases hread
    exact .inl ⟨rfl, not_follows_of_said hs hk₂⟩

include hr hj hq hothers in
/-- In the end there is the row that was stored later. -/
theorem find?_last : (r.following
    (X ++ stores i row₁ (.ok x₁) :: (Y ++ stores j row₂ (.ok x₂) :: Z))).find? id = some row₂ := by
  have hcut : X ++ stores i row₁ (.ok x₁) :: (Y ++ stores j row₂ (.ok x₂) :: Z) =
      ((X ++ stores i row₁ (.ok x₁) :: Y) ++ [stores j row₂ (.ok x₂)]) ++ Z := by simp
  rw [hcut, Registry.following_append]
  refine (Registry.find?_following fun e he => ?_).trans
    (hq ▸ find?_of_stores hr (steps_second hs) hj)
  exact touches_of_succession hs hothers e (.inr (.inr he))

include hr horiginal hi hj hp hq hothers in
/-- If the later update follows the earlier one, the row carries both patches in the end, and if not,
only that of the later one. -/
theorem row_of_succession (hd : p.Disjoint q) :
    let h := X ++ stores i row₁ (.ok x₁) :: (Y ++ stores j row₂ (.ok x₂) :: Z)
    (r.following h).find? id = some row₂ ∧
      (Follows i j id h ∨ Follows j i id h → Carries original [p, q] row₂) ∧
      (¬(Follows i j id h ∨ Follows j i id h) →
        Precedes i j h ∧ Carries original [q] row₂) := by
  intro h
  have hback : ¬Follows j i id h := not_follows_of_succession hs
  obtain ⟨now, rfl⟩ := first_of_succession hr horiginal hs hi hp hothers
  refine ⟨find?_last hr hs hj hq hothers, ?_⟩
  obtain ⟨now', ⟨rfl, hnot⟩ | ⟨rfl, hfollows⟩⟩ :=
    second_of_succession hr horiginal hs hi hj hp hq hothers
  · refine ⟨fun hor => (hor.elim hnot hback).elim, fun _ => ⟨?_, carries_overwritten⟩⟩
    exact ⟨_, _, _, _, (List.Sublist.cons_cons _ (.trans (.cons_cons _ (List.nil_sublist Z))
      (List.sublist_append_right Y _))).trans (List.sublist_append_right X _)⟩
  · exact ⟨fun _ => carries_overwritten_overwritten hd, fun hnot => (hnot (.inl hfollows)).elim⟩

end Succession

/-! ## The headline -/

/-- **Who reads before the other has stored loses the other's update.** Two updates of one company
with no field in common, both of which succeed, and no other request that touches this company: if
one of them has read the row after the other one had stored its own, the row carries in the end all
that either patch provides and the original values otherwise. If not, it carries the patch that was
stored later, and the original values otherwise, also in the fields of the other patch. Any number of
other requests may be under way, and the steps may come in any order. -/
theorem row_of_two_updates {a b : Result} {d : Caller} (hr : r.Keyed)
    (horiginal : r.find? id = some original) (hij : i ≠ j)
    (hi : errands i = some (c, .update (.ok p))) (hj : errands j = some (d, .update (.ok q)))
    (hp : p.id = id) (hq : q.id = id) (hd : p.Disjoint q)
    (hs : Steps (opening g s r errands) h w)
    (hothers : ∀ e ∈ h, e.1 ≠ i → e.1 ≠ j → e.2.touches id = false)
    (ha : w.requests i = .ended (some (.ok a))) (hb : w.requests j = .ended (some (.ok b))) :
    ∃ row, w.registry.find? id = some row ∧
      (Follows i j id h ∨ Follows j i id h → Carries original [p, q] row) ∧
      (¬(Follows i j id h ∨ Follows j i id h) →
        (Precedes i j h ∧ Carries original [q] row) ∨
          (Precedes j i h ∧ Carries original [p] row)) := by
  rw [hs.registry_eq]
  obtain ⟨row₁, x₁, h₁, h₂, heq⟩ := exists_stores hs hi ha
  obtain ⟨row₂, x₂, k₁, k₂, heq'⟩ := exists_stores hs hj hb
  -- The two changes stand at different places, and it does not matter which one comes first.
  rcases List.append_eq_append_iff.mp (heq.symm.trans heq') with
    ⟨_ | ⟨e, Y⟩, -, hY⟩ | ⟨_ | ⟨e, Y⟩, -, hY⟩
  · exact (hij (congrArg Prod.fst (List.cons.inj hY).1)).elim
  · obtain ⟨-, rfl⟩ := List.cons.inj hY
    subst heq
    obtain ⟨hrow, hboth, hone⟩ := row_of_succession hr horiginal hs hi hj hp hq hothers hd
    exact ⟨row₂, hrow, hboth, fun hnot => .inl (hone hnot)⟩
  · exact (hij (congrArg Prod.fst (List.cons.inj hY).1).symm).elim
  · obtain ⟨-, rfl⟩ := List.cons.inj hY
    subst heq'
    obtain ⟨hrow, hboth, hone⟩ := row_of_succession hr horiginal hs hj hi hq hp
      (fun e he hej hei => hothers e he hei hej) fun f => (hd f).symm
    exact ⟨row₁, hrow, fun hor => (hboth hor.symm).symm,
      fun hnot => .inr (hone fun hor => hnot hor.symm)⟩

/-- Whether two updates of one company with no field in common, both of which succeed, leave a row
that carries both, if no other request touches this company. -/
def LosesNoUpdate (g : CompanyGate) : Prop :=
  ∀ (s : PagingSettings) (r : Registry) (errands : Nat → Option (Caller × Errand)) (h : History)
    (w : Traffic (Except Failure Result)) (i j : Nat) (c d : Caller) (p q : Company.Patch)
    (id : Uuid) (original : Company) (a b : Result),
    r.Keyed → r.find? id = some original → i ≠ j → errands i = some (c, .update (.ok p)) →
    errands j = some (d, .update (.ok q)) → p.id = id → q.id = id → p.Disjoint q →
    Steps (opening g s r errands) h w →
    (∀ e ∈ h, e.1 ≠ i → e.1 ≠ j → e.2.touches id = false) →
    w.requests i = .ended (some (.ok a)) → w.requests j = .ended (some (.ok b)) →
    ∃ row, w.registry.find? id = some row ∧ Carries original [p, q] row

/-! ## An overlap -/

/-- The patch that makes a cooperative of a company. -/
def reforming : Company.Patch :=
  { Company.Patch.empty plainCompany.id with legalForm := some .cooperative }

/-- One caller registers the company, another one makes a cooperative of it. -/
def overlap : Nat → Option (Caller × Errand)
  | 0 => some (.anonymous, .update (.ok registering))
  | 1 => some (.anonymous, .update (.ok reforming))
  | _ => none

/-- Both updates read the row; then each stores its own. -/
def overlapped : History × Traffic (Except Failure Result) :=
  exec calm (opening unguarded .standard (.sole plainCompany) overlap)
    (List.replicate 18 0 ++ List.replicate 18 1 ++ List.replicate 7 0 ++ List.replicate 7 1)

theorem disjoint_overlap : registering.Disjoint reforming := by
  intro f
  cases f <;> simp [registering, reforming, Company.Patch.empty, Company.Patch.value?]

theorem touches_overlapped (e : Nat × Happening systemSignature) (he : e ∈ overlapped.1)
    (h₀ : e.1 ≠ 0) (h₁ : e.1 ≠ 1) (id : Uuid) : e.2.touches id = false := by
  have hmem := mem_of_mem_exec he
  simp [h₀, h₁] at hmem

/-- Of two updates that overlap like this, one is kept. -/
theorem row_of_two_updates_overlapped : ∃ row,
    overlapped.2.registry.find? plainCompany.id = some row ∧
      (Carries plainCompany [registering, reforming] row ∨ Carries plainCompany [reforming] row ∨
        Carries plainCompany [registering] row) := by
  obtain ⟨row, hrow, hboth, hone⟩ := row_of_two_updates (p := registering) (q := reforming)
    (h := overlapped.1) (Registry.keyed_sole plainCompany) rfl Nat.zero_ne_one rfl rfl rfl rfl
    disjoint_overlap (steps_exec calm _ _) (fun e he h₀ h₁ => touches_overlapped e he h₀ h₁ _)
    rfl rfl
  refine ⟨row, hrow, ?_⟩
  by_cases hfollows : Follows 0 1 plainCompany.id overlapped.1 ∨
      Follows 1 0 plainCompany.id overlapped.1
  · exact .inl (hboth hfollows)
  · exact .inr ((hone hfollows).imp And.right And.right)

/-- In the end the company is a cooperative, and not registered. -/
theorem update_lost : ¬LosesNoUpdate unguarded := by
  intro hloses
  obtain ⟨row, hrow, hcarries⟩ := hloses .standard _ overlap overlapped.1 overlapped.2 0 1
    .anonymous .anonymous registering reforming plainCompany.id plainCompany _ _
    (Registry.keyed_sole _) rfl Nat.zero_ne_one rfl rfl rfl rfl disjoint_overlap
    (steps_exec calm _ _) (fun e he h₀ h₁ => touches_overlapped e he h₀ h₁ _) rfl rfl
  have hregistered : row.registered = true :=
    hcarries.provided registering List.mem_cons_self .registered true rfl
  have hlost : overlapped.2.registry.find? plainCompany.id =
      some { plainCompany with legalForm := .cooperative } := rfl
  rw [hlost] at hrow
  cases hrow
  cases hregistered

end Traffic

end Gatehouse
