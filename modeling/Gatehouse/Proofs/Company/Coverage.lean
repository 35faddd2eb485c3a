import Gatehouse.Proofs.Company.Errand

/-!
# What the check of a company covers

Before a company is changed or removed, its caller is checked on it as the gate has read it. Nothing
ties the change to that reading: the registry has no locks, and a request that comes in between may
have made another company of it. So the check covers the row as it was read at an earlier moment of
the same request, and it covers the row that is changed if nobody else has touched it since.

The vocabulary is `change?`, the operation and the key of a step or of an errand that changes a row,
and `CoversChangedRows`, a gate whose checks cover every row that is changed, which not every gate
does.
-/

namespace Gatehouse

/-- The operation and the key of a step that changes a stored row. -/
def RegistryCall.change? : RegistryCall → Option (Operation × Uuid)
  | replace c => some (.update, c.id)
  | remove id => some (.delete, id)
  | find _ | insert _ | list _ | count _ => none

/-- The operation and the key of an errand to change a stored row. -/
def Errand.change? : Errand → Option (Operation × Uuid)
  | update (.ok p) => some (.update, p.id)
  | delete (.ok id) => some (.delete, id)
  | _ => none

theorem RegistryCall.mutates_of_change? {call : RegistryCall} {change : Operation × Uuid}
    (h : call.change? = some change) : call.mutates = true := by
  cases call <;> first | rfl | cases h

theorem Errand.Vetted.mono {g : CompanyGate} {c : Caller} {op : Operation} {id : Uuid}
    {sub : Option Subject} {seen : Company} {v w : Trace systemSignature}
    (h : Vetted g c op id sub seen v) (hsub : ∀ act ∈ v, act ∈ w) : Vetted g c op id sub seen w :=
  ⟨h.coarse, h.fine, hsub _ h.verified, hsub _ h.read⟩

namespace Traffic

open Errand

variable {g : CompanyGate} {s : PagingSettings} {r : Registry}
  {errands : Nat → Option (Caller × Errand)} {h₁ h₂ : History} {i : Nat}
  {w : Traffic (Except Failure Result)} {id : Uuid}

/-! ## Changes -/

/-- A change of a row belongs to an errand to make it, and its caller was checked on what the row
held when it was read. -/
theorem vetted_of_change {call : RegistryCall} {x : call.Answer} {op : Operation} (hr : r.Keyed)
    (hs : Steps (opening g s r errands) (h₁ ++ (i, .act ⟨.registry call, x⟩) :: h₂) w)
    (hcall : call.change? = some (op, id)) : ∃ c e sub seen, errands i = some (c, e) ∧
      e.change? = some (op, id) ∧ Vetted g c op id sub seen (said i h₁) ∧
      ∀ act ∈ said i h₁, Harmless act.question := by
  obtain ⟨c, e, hi, hbegins⟩ := begins_of_opening hs (List.mem_append_right _ List.mem_cons_self)
  rw [said_append, said_cons_self] at hbegins
  obtain ⟨hharmless, hkind⟩ := of_mutation hbegins (RegistryCall.mutates_of_change? hcall)
  rcases hkind with ⟨row, rfl⟩ | ⟨p, sub, seen, current, now, v, rfl, hvetted, hv, rfl⟩ |
    ⟨key, sub, seen, rfl, hvetted, rfl⟩
  · cases hcall
  · cases hcall
    -- The row that an update overwrites is the one it has read under the identifier of its patch.
    obtain ⟨h₃, h₄, rfl, -, -⟩ := exists_split_of_said hv
    rw [List.append_assoc] at hs
    have hid : current.id = p.id := hr.following h₃ _ _ (find?_of_found hs)
    have hvetted' := hvetted.mono fun act hact =>
      (hv ▸ List.mem_append_left _ hact : act ∈ said i (h₃ ++ _))
    refine ⟨c, _, sub, seen, hi, ?_, ?_, hharmless⟩
    · exact congrArg (fun key => some (Operation.update, key)) hid.symm
    · show Vetted g c .update current.id sub seen _
      rw [hid]
      exact hvetted'
  · cases hcall
    exact ⟨c, _, sub, seen, hi, rfl, hvetted, hharmless⟩

/-- **A check covers the row as it was read.** Whenever a request overwrites or removes the row of a
company, it is a request to do so, its caller has passed the coarse check of this operation, and the
check of the target was passed on what the row held at an earlier moment, at which the request has
read it. If no other request has touched the row since then, this is the very row that is changed.
This holds for all tables and for any number of requests, whatever the order of their steps. -/
theorem check_covers_row_read {call : RegistryCall} {x : call.Answer} {op : Operation}
    (hr : r.Keyed)
    (hs : Steps (opening g s r errands) (h₁ ++ (i, .act ⟨.registry call, x⟩) :: h₂) w)
    (hcall : call.change? = some (op, id)) : ∃ c e sub seen before since,
      errands i = some (c, e) ∧ e.change? = some (op, id) ∧
      ⟨.verify c.token, .ok sub⟩ ∈ said i h₁ ∧
      g.evaluator.operations.allows op sub () ∧ g.evaluator.objects.allows op sub (.entity seen) ∧
      h₁ = before ++ (i, .act ⟨.registry (.find id), .ok (some seen)⟩) :: since ∧
      (r.following before).find? id = some seen ∧
      ((∀ e ∈ since, e.1 ≠ i → e.2.touches id = false) →
        (r.following h₁).find? id = some seen) := by
  obtain ⟨c, e, sub, seen, hi, he, hvetted, hharmless⟩ := vetted_of_change hr hs hcall
  obtain ⟨before, since, rfl⟩ := List.append_of_mem (mem_said.mp hvetted.read)
  have hread : (r.following before).find? id = some seen := by
    rw [List.append_assoc] at hs
    exact find?_of_found hs
  refine ⟨c, e, sub, seen, before, since, hi, he, hvetted.verified, hvetted.coarse, hvetted.fine,
    rfl, hread, fun hothers => ?_⟩
  -- The request itself has not changed anything so far, so nobody has.
  rw [Registry.following_append]
  refine (Registry.find?_following fun e' he' => ?_).trans hread
  obtain ⟨j, e'⟩ := e'
  by_cases hj : j = i
  · subst hj
    exact touches_of_harmless hharmless (List.mem_append_right _ he')
  · rcases List.mem_cons.mp he' with heq | hsince
    · cases heq
      exact absurd rfl hj
    · exact hothers _ hsince hj

/-- Whether the checks of a gate cover every row that is changed, as it is stored right before the
change. -/
def CoversChangedRows (g : CompanyGate) : Prop :=
  ∀ (s : PagingSettings) (r : Registry) (errands : Nat → Option (Caller × Errand)) (h₁ h₂ : History)
    (w : Traffic (Except Failure Result)) (i : Nat) (call : RegistryCall) (x : call.Answer)
    (op : Operation) (id : Uuid) (c : Caller) (e : Errand) (sub : Option Subject) (row : Company),
    r.Keyed → Steps (opening g s r errands) (h₁ ++ (i, .act ⟨.registry call, x⟩) :: h₂) w →
    call.change? = some (op, id) → errands i = some (c, e) →
    ⟨.verify c.token, .ok sub⟩ ∈ said i h₁ → (r.following h₁).find? id = some row →
    g.evaluator.objects.allows op sub (.entity row)

/-! ## A race -/

/-- Allows what is about a company that is not registered. -/
def unregisteredOnly : Checker (Target Company.resource) where
  label := "unregistered"
  mark := none
  allows _ target :=
    match target with
    | .entity c => !c.registered
    | .draft _ | .filter _ => false

/-- A gate behind which registered companies are not deleted. -/
def sparing : CompanyGate where
  evaluator := ⟨⟨fun _ => some [Builtin.anybody.checker _]⟩, ⟨fun op => some [match op with
    | .delete => unregisteredOnly
    | .list | .detail | .create | .update => Builtin.anybody.checker _]⟩⟩
  complete := rfl

/-- One caller deletes the company, another one registers it. -/
def race : Nat → Option (Caller × Errand)
  | 0 => some (.anonymous, .delete (.ok plainCompany.id))
  | 1 => some (.anonymous, .update (.ok registering))
  | _ => none

/-- The deletion goes as far as its task, then the update registers the company. -/
def raced : History × Traffic (Except Failure Result) :=
  exec calm (opening sparing .standard (.sole plainCompany) race)
    (List.replicate 17 0 ++ List.replicate 20 1)

/-- Then the task removes the row. -/
theorem steps_raced : ∃ w, Steps (opening sparing .standard (.sole plainCompany) race)
    (raced.1 ++ (0, .act ⟨.registry (.remove plainCompany.id), .ok true⟩) :: []) w :=
  ⟨_, (steps_exec calm _ _).append (steps_exec calm raced.2 [0])⟩

/-- The deletion was checked on what was stored when it was read. -/
theorem check_covers_row_read_raced : ∃ sub seen before since,
    ⟨.verify none, .ok sub⟩ ∈ said 0 raced.1 ∧
    sparing.evaluator.objects.allows .delete sub (.entity seen) ∧
    raced.1 = before ++
      (0, .act ⟨.registry (.find plainCompany.id), .ok (some seen)⟩) :: since ∧
    (Registry.following (.sole plainCompany) before).find? plainCompany.id = some seen := by
  obtain ⟨w, hs⟩ := steps_raced
  obtain ⟨c, e, sub, seen, before, since, hi, -, hverified, -, hfine, heq, hread, -⟩ :=
    check_covers_row_read (Registry.keyed_sole plainCompany) hs rfl
  cases hi
  exact ⟨sub, seen, before, since, hverified, hfine, heq, hread⟩

/-- When the row is removed, the company is registered, and its deletion would not be allowed. -/
theorem changed_row_not_covered : ¬CoversChangedRows sparing := by
  intro hcovers
  obtain ⟨w, hs⟩ := steps_raced
  have hverified : (⟨.verify none, .ok none⟩ : systemSignature.Act) ∈ said 0 raced.1 :=
    List.mem_of_getElem? (i := 1) rfl
  have hallows : sparing.evaluator.objects.allows .delete none
      (.entity { plainCompany with registered := true }) :=
    hcovers _ _ _ _ _ _ _ _ _ .delete plainCompany.id _ _ none _ (Registry.keyed_sole _) hs rfl rfl
      hverified rfl
  revert hallows
  decide

end Traffic

end Gatehouse
