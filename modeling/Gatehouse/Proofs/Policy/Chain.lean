import Gatehouse.Company.Service
import Gatehouse.Proofs.Json.Values
import Mathlib.Data.List.Basic

/-!
# What chains allow

A chain lets a caller pass if one of its checkers does; that is all there is to the verdict of an
evaluator, whatever it logs. For configured policies the chains are lists of stock checkers, so
whom they let pass can be read off the settings.
-/

namespace Gatehouse

/-! ## Tables -/

namespace Table

variable {Op Q : Type} [OperationSet Op]

/-- Whether some checker of the chain lets the caller pass. -/
def allows (t : Table Op Q) (op : Op) (s : Option Subject) (q : Q) : Bool :=
  (t.checkers op).any fun c => c.allows s q

theorem checkers_push (t : Table Op Q) (op o : Op) (c : Checker Q) :
    (t.push op c).checkers o = t.checkers o ++ if o == op then [c] else [] := by
  by_cases h : o = op
  · subst h
    simp [checkers, push]
  · simp [checkers, push, h]

theorem checkers_pushAll (t : Table Op Q) (op o : Op) (bs : List Builtin) :
    (t.pushAll op bs).checkers o =
      t.checkers o ++ if o == op then bs.map (Builtin.checker Q) else [] := by
  induction bs generalizing t with
  | nil => simp [pushAll]
  | cons b bs ih =>
    show ((t.push op (b.checker Q)).pushAll op bs).checkers o = _
    rw [ih, checkers_push]
    by_cases h : o = op <;> simp [h]

end Table

/-! ## Evaluators -/

namespace Evaluator

variable {Op : Type} [OperationSet Op] {R : Resource}

/-- What an answer of a chain means, whatever is logged about it. -/
theorem conclude_fst {Q : Type} (level : PolicyLevel) (t : Table Op Q) (op : Op)
    (s : Option Subject) (q : Q) (details : List (String × String)) :
    (conclude level op s details (t.judge op s q)).1 =
      if t.allows op s q then .ok () else .error .permissionDenied := by
  rw [Table.judge, Table.allows]
  split
  · rename_i h
    simp [h, conclude]
  · rename_i c cs h
    rw [h]
    split
    · rename_i d hd
      have hany : ((c :: cs).any fun c => c.allows s q) = true :=
        List.any_eq_true.mpr ⟨d, List.mem_of_find?_eq_some hd,
          List.find?_some (p := fun c : Checker Q => c.allows s q) hd⟩
      simp [conclude, hany]
    · rename_i hn
      have hany : ((c :: cs).any fun c => c.allows s q) = false := by simpa using hn
      simp [conclude, hany]

theorem judgeOperation_fst (e : Evaluator Op R) (s : Option Subject) (op : Op) :
    (e.judgeOperation s op).1 =
      if e.operations.allows op s () then .ok () else .error .permissionDenied :=
  conclude_fst ..

theorem judgeObject_fst (e : Evaluator Op R) (s : Option Subject) (op : Op) (t : Target R) :
    (e.judgeObject s op t).1 =
      if e.objects.allows op s t then .ok () else .error .permissionDenied :=
  conclude_fst ..

end Evaluator

/-! ## Configured policies -/

namespace Chains

/-- Whether some stock checker that is listed for the operation lets the caller pass. -/
def allows (c : Chains) (op : Operation) (s : Option Subject) : Bool :=
  ((c.of op).getD []).any fun b => b.allows s

theorem checkers_foldl (Q : Type) (es : List (Operation × List Builtin)) (op : Operation)
    (t : Table Operation Q) :
    (es.foldl (fun t e => t.pushAll e.1 e.2) t).checkers op = t.checkers op ++
      (es.filter fun e => op == e.1).flatMap fun e => e.2.map (Builtin.checker Q) := by
  induction es generalizing t with
  | nil => simp
  | cons e es ih =>
    rw [List.foldl_cons, ih, Table.checkers_pushAll]
    by_cases h : op = e.1 <;> simp [h]

/-- What an operation contributes to the chain of another one. -/
theorem entry_of (Q : Type) (c : Chains) (op o : Operation) :
    ((((c.of o).map fun bs => (o, bs)).toList.filter fun e => op == e.1).flatMap
      fun e => e.2.map (Builtin.checker Q)) =
      if op = o then ((c.of o).getD []).map (Builtin.checker Q) else [] := by
  cases h : c.of o with
  | none => simp
  | some bs => by_cases ho : op = o <;> simp [ho]

/-- The chains of a table are those that are listed. -/
theorem checkers_table (Q : Type) (c : Chains) (op : Operation) :
    (c.table Q).checkers op = ((c.of op).getD []).map (Builtin.checker Q) := by
  rw [table, checkers_foldl, entries, List.filterMap_eq_flatMap_toList, List.filter_flatMap,
    List.flatMap_assoc]
  simp only [entry_of]
  cases op <;> simp [Operation.all, Table.checkers, Table.empty]

theorem allows_table (Q : Type) (c : Chains) (op : Operation) (s : Option Subject) (q : Q) :
    (c.table Q).allows op s q = c.allows op s := by
  rw [Table.allows, checkers_table, List.any_map]
  rfl

end Chains

/-- The tables of a policy are refused only if they have a gap. -/
theorem PolicySettings.evaluator_eq_ok {R : Resource} {p : PolicySettings}
    {e : Evaluator Operation R} :
    p.evaluator R = .ok e ↔ (p.tables R).ensureComplete = .ok () ∧ p.tables R = e := by
  constructor
  · intro h
    obtain ⟨⟨⟩, hcomplete, he⟩ := bind_eq_ok.mp h
    exact ⟨hcomplete, Except.ok.inj he⟩
  · rintro ⟨hcomplete, rfl⟩
    exact bind_eq_ok.mpr ⟨(), hcomplete, rfl⟩

theorem Gate.evaluator_of {Op : Type} [OperationSet Op] {K : Resource} {e : Evaluator Op K}
    {g : Gate Op K} (h : Gate.of e = .ok g) : g.evaluator = e := by
  rw [Gate.of] at h
  split at h
  · cases h
    rfl
  · cases h

/-- A gate that is made from settings judges by the tables of the settings. -/
theorem CompanyGate.evaluator_of_ofSettings {p : PolicySettings} {g : CompanyGate}
    (h : ofSettings p = .ok g) : g.evaluator = p.tables Company.resource := by
  obtain ⟨e, he, hg⟩ := bind_eq_ok.mp h
  obtain ⟨-, rfl⟩ := PolicySettings.evaluator_eq_ok.mp he
  exact Gate.evaluator_of hg

end Gatehouse
