import Gatehouse.Policy.Condition
import Gatehouse.Proofs.Policy.Chain
import Gatehouse.Proofs.Run

/-!
# How tables decide

A table is made by additions, each of which appends checkers to the chain of one operation, perhaps
none. However the additions for different operations are mixed, the chain of an operation holds the
checkers that were pushed for it, in this order, and a caller passes exactly if one of them allows.
So the order of the additions does not matter to the answer, and further additions turn no caller
away who was let pass before.

The vocabulary of the statement is `Addition` and `Table.build`, how a table is made, `pushed`, the
checkers that additions push for an operation, `Table.evaluation`, a question to a table with every
call of a checker, and `Consults`, which checkers of a chain are called.
-/

namespace Gatehouse

/-! ## Making tables -/

/-- One addition to a table that is being made. -/
inductive Addition (Op Q : Type) where
  /-- A checker that may be shared with others. -/
  | push (op : Op) (c : Checker Q)
  /-- A checker of the table's own. -/
  | rule (op : Op) (c : Checker Q)
  /-- A bare predicate, which logs know by the name that all of them have. -/
  | predicate (op : Op) (allows : Option Subject → Q → Bool)
  /-- Stock checkers, or none. -/
  | chain (op : Op) (bs : List Builtin)

variable {Op Q : Type}

namespace Addition

/-- The checkers that an addition pushes, each with the operation that it is for. -/
def pushes : Addition Op Q → List (Op × Checker Q)
  | push op c | rule op c => [(op, c)]
  | predicate op allows => [(op, ⟨Condition.label, none, allows⟩)]
  | chain op bs => bs.map fun b => (op, b.checker Q)

/-- The table after an addition. -/
def apply [OperationSet Op] (t : Table Op Q) : Addition Op Q → Table Op Q
  | push op c | rule op c => t.push op c
  | predicate op allows => t.push op ⟨Condition.label, none, allows⟩
  | chain op bs => t.pushAll op bs

end Addition

variable [OperationSet Op]

/-- The table that additions make, one after the other. -/
def Table.build (as : List (Addition Op Q)) : Table Op Q := as.foldl Addition.apply Table.empty

/-- The checkers among pushes that are for an operation. -/
def pushedFor (ps : List (Op × Checker Q)) (op : Op) : List (Checker Q) :=
  (ps.filter fun p => p.1 == op).map Prod.snd

/-- The checkers that additions push for an operation, in this order. -/
def pushed (as : List (Addition Op Q)) (op : Op) : List (Checker Q) :=
  pushedFor (as.flatMap Addition.pushes) op

theorem pushedFor_concat (ps : List (Op × Checker Q)) (op o : Op) (c : Checker Q) :
    pushedFor (ps ++ [(op, c)]) o = pushedFor ps o ++ if o == op then [c] else [] := by
  by_cases h : o = op
  · simp [pushedFor, h]
  · simp [pushedFor, h, Ne.symm h]

theorem mem_pushed {as : List (Addition Op Q)} {op : Op} {c : Checker Q} :
    c ∈ pushed as op ↔ ∃ a ∈ as, (op, c) ∈ a.pushes := by
  simp only [pushed, pushedFor, List.mem_map, List.mem_filter, List.mem_flatMap, beq_iff_eq]
  constructor
  · rintro ⟨⟨o, d⟩, ⟨⟨a, ha, hp⟩, rfl⟩, rfl⟩
    exact ⟨a, ha, hp⟩
  · rintro ⟨a, ha, hp⟩
    exact ⟨(op, c), ⟨⟨a, ha, hp⟩, rfl⟩, rfl⟩

theorem pushed_subset {as bs : List (Addition Op Q)} (h : as ⊆ bs) (op : Op) :
    pushed as op ⊆ pushed bs op := by
  intro c hc
  obtain ⟨a, ha, hp⟩ := mem_pushed.mp hc
  exact mem_pushed.mpr ⟨a, h ha, hp⟩

namespace Table

/-- What a table keeps for an operation with such checkers; without any it keeps nothing. -/
def kept (cs : List (Checker Q)) : Option (List (Checker Q)) := if cs.isEmpty then none else some cs

/-- A table holds just the checkers of these pushes. -/
def Records (t : Table Op Q) (ps : List (Op × Checker Q)) : Prop :=
  ∀ op, t.chain op = kept (pushedFor ps op)

theorem getD_kept (cs : List (Checker Q)) : (kept cs).getD [] = cs := by
  cases cs <;> rfl

theorem Records.push {t : Table Op Q} {ps : List (Op × Checker Q)} (h : t.Records ps) (op : Op)
    (c : Checker Q) : (t.push op c).Records (ps ++ [(op, c)]) := by
  intro o
  rw [pushedFor_concat]
  by_cases ho : o = op
  · subst ho
    show (if o == o then some ((t.chain o).getD [] ++ [c]) else t.chain o) = _
    rw [if_pos (beq_self_eq_true o), if_pos (beq_self_eq_true o), h o, getD_kept]
    simp [kept]
  · simp [Table.push, ho, h o]

theorem Records.pushAll {t : Table Op Q} {ps : List (Op × Checker Q)} (h : t.Records ps) (op : Op)
    (bs : List Builtin) :
    (t.pushAll op bs).Records (ps ++ bs.map fun b => (op, b.checker Q)) := by
  induction bs generalizing t ps with
  | nil => simpa [Table.pushAll] using h
  | cons b bs ih =>
    rw [List.map_cons, List.append_cons]
    exact ih (h.push op (b.checker Q))

/-- An addition is recorded after what was there before. -/
theorem Records.apply {t : Table Op Q} {ps : List (Op × Checker Q)} (h : t.Records ps)
    (a : Addition Op Q) : (a.apply t).Records (ps ++ a.pushes) := by
  cases a with
  | push op c => exact h.push op c
  | rule op c => exact h.push op c
  | predicate op allows => exact h.push op _
  | chain op bs => exact h.pushAll op bs

/-- **A table holds what was pushed.** -/
theorem records_build (as : List (Addition Op Q)) :
    (build as).Records (as.flatMap Addition.pushes) := by
  have hrun (t : Table Op Q) (ps : List (Op × Checker Q)) (h : t.Records ps) :
      (as.foldl Addition.apply t).Records (ps ++ as.flatMap Addition.pushes) := by
    induction as generalizing t ps with
    | nil => simpa using h
    | cons a as ih =>
      rw [List.foldl_cons, List.flatMap_cons, ← List.append_assoc]
      exact ih _ _ (h.apply a)
  exact hrun empty [] fun _ => rfl

theorem chain_build (as : List (Addition Op Q)) (op : Op) :
    (build as).chain op = kept (pushed as op) :=
  records_build as op

theorem checkers_build (as : List (Addition Op Q)) (op : Op) :
    (build as).checkers op = pushed as op := by
  rw [checkers, chain_build, getD_kept]

/-! ## Calling checkers -/

/-- The calls of an evaluation: a checker is asked whether it allows. -/
@[reducible] def callSignature (Q : Type) : Signature := ⟨Checker Q, fun _ => Bool⟩

/-- Checkers are called in order, until one allows. -/
def callInOrder : List (Checker Q) → Program (callSignature Q) (Verdict Q)
  | [] => .done .exhausted
  | c :: cs => .ask c fun allowed => if allowed then .done (.allowed c) else callInOrder cs

/-- The evaluation of a question about an operation, with every call of a checker. -/
def evaluation (t : Table Op Q) (op : Op) : Program (callSignature Q) (Verdict Q) :=
  match t.chain op with
  | none | some [] => .done .gap
  | some (c :: cs) => callInOrder (c :: cs)

/-- The checkers that are called: up to the first that allows, or all of them. -/
inductive Consults (allows : Checker Q → Bool) : List (Checker Q) → List (Checker Q) → Prop where
  | allowed {before after : List (Checker Q)} {c : Checker Q}
    (denied : ∀ d ∈ before, allows d = false) (allowed : allows c = true) :
    Consults allows (before ++ c :: after) (before ++ [c])
  | exhausted {chain : List (Checker Q)} (denied : ∀ d ∈ chain, allows d = false) :
    Consults allows chain chain

theorem Consults.cons {allows : Checker Q → Bool} {c : Checker Q} {chain called : List (Checker Q)}
    (h : Consults allows chain called) (hc : allows c = false) :
    Consults allows (c :: chain) (c :: called) := by
  cases h with
  | @allowed before after d denied allowed =>
    have hdenied : ∀ d ∈ c :: before, allows d = false := List.forall_mem_cons.mpr ⟨hc, denied⟩
    exact .allowed hdenied allowed
  | exhausted denied => exact .exhausted (List.forall_mem_cons.mpr ⟨hc, denied⟩)

theorem consults_upToAllowing (s : Option Subject) (q : Q) (cs : List (Checker Q)) :
    Consults (fun c => c.allows s q) cs (asked.upToAllowing s q cs) := by
  induction cs with
  | nil => exact .exhausted (by simp)
  | cons c cs ih =>
    rw [asked.upToAllowing]
    cases hc : c.allows s q with
    | true =>
      have hnone : ∀ d ∈ [], Checker.allows d s q = false := List.forall_mem_nil _
      exact .allowed hnone hc
    | false => exact ih.cons hc

/-- The answers of checkers to a question. -/
def calls (s : Option Subject) (q : Q) (cs : List (Checker Q)) : Trace (callSignature Q) :=
  cs.map fun c => ⟨c, c.allows s q⟩

theorem play_callInOrder (s : Option Subject) (q : Q) (cs : List (Checker Q)) :
    (callInOrder cs).play (fun c : Checker Q => c.allows s q) =
      (calls s q (asked.upToAllowing s q cs),
        match cs.find? fun c => c.allows s q with
        | some c => .allowed c
        | none => .exhausted) := by
  induction cs with
  | nil => rfl
  | cons c cs ih =>
    cases hc : c.allows s q with
    | true => simp [callInOrder, Program.play, asked.upToAllowing, calls, hc]
    | false =>
      simp only [callInOrder, Program.play, hc, Bool.false_eq_true, if_false, ih]
      simp [asked.upToAllowing, calls, hc]

omit [OperationSet Op] in
/-- The calls of an evaluation are to the checkers that are asked, and it ends with the verdict. -/
theorem play_evaluation (t : Table Op Q) (op : Op) (s : Option Subject) (q : Q) :
    (t.evaluation op).play (fun c : Checker Q => c.allows s q) =
      (calls s q (t.asked op s q), t.judge op s q) := by
  unfold evaluation judge asked checkers
  cases t.chain op with
  | none => rfl
  | some cs =>
    cases cs with
    | nil => rfl
    | cons c cs => exact play_callInOrder s q (c :: cs)

end Table

/-! ## Decisions -/

/-- How the table that additions make decides on a question about an operation, with its answer. -/
structure Decides (as : List (Addition Op Q)) (op : Op) (s : Option Subject) (q : Q)
    (answer : Except PolicyError Unit) : Prop where
  /-- The chain holds what was pushed for the operation, in this order. -/
  chain : (Table.build as).chain op = Table.kept (pushed as op)
  allowed : answer = .ok () ↔ ∃ c ∈ pushed as op, c.allows s q = true
  denied : answer = .error .permissionDenied ↔ ¬∃ c ∈ pushed as op, c.allows s q = true
  /-- Which checkers are asked. -/
  consulted : Table.Consults (fun c => c.allows s q) (pushed as op)
    ((Table.build as).asked op s q)
  /-- These are the ones that an evaluation calls, each once, and it ends with the verdict. -/
  called : ((Table.build as).evaluation op).play (fun c : Checker Q => c.allows s q) =
    (Table.calls s q ((Table.build as).asked op s q), (Table.build as).judge op s q)

theorem decides_build (as : List (Addition Op Q)) (op : Op) (s : Option Subject) (q : Q)
    {answer : Except PolicyError Unit} (h : answer =
      if (Table.build as).allows op s q then .ok () else .error .permissionDenied) :
    Decides as op s q answer := by
  have hallows : (Table.build as).allows op s q = true ↔
      ∃ c ∈ pushed as op, c.allows s q = true := by
    rw [Table.allows, Table.checkers_build, List.any_eq_true]
  refine ⟨Table.chain_build as op, ?_, ?_, ?_, Table.play_evaluation (Table.build as) op s q⟩
  · rw [← hallows, h]
    split <;> simp_all
  · rw [← hallows, h]
    split <;> simp_all
  · rw [Table.asked, Table.checkers_build]
    exact Table.consults_upToAllowing s q _

/-- More additions do not turn away who was let pass. -/
theorem Decides.of_subset {as bs : List (Addition Op Q)} {op : Op} {s : Option Subject} {q : Q}
    {before after : Except PolicyError Unit} (ha : Decides as op s q before)
    (hb : Decides bs op s q after) (h : as ⊆ bs) (hok : before = .ok ()) : after = .ok () := by
  obtain ⟨c, hc, hallows⟩ := ha.allowed.mp hok
  exact hb.allowed.mpr ⟨c, pushed_subset h op hc, hallows⟩

/-- The order of the additions does not matter to the answer. -/
theorem Decides.eq_of_perm {as bs : List (Addition Op Q)} {op : Op} {s : Option Subject} {q : Q}
    {one other : Except PolicyError Unit} (ha : Decides as op s q one)
    (hb : Decides bs op s q other) (h : as.Perm bs) : one = other := by
  by_cases hone : one = .ok ()
  · rw [hone, ha.of_subset hb h.subset hone]
  · have hother : other ≠ .ok () := fun hok => hone (hb.of_subset ha h.symm.subset hok)
    rw [ha.denied.mpr (mt ha.allowed.mpr hone), hb.denied.mpr (mt hb.allowed.mpr hother)]

namespace Evaluator

variable {R : Resource}

/-- The evaluator of the tables that additions make. -/
def build (coarse : List (Addition Op Unit)) (fine : List (Addition Op (Target R))) :
    Evaluator Op R :=
  ⟨Table.build coarse, Table.build fine⟩

theorem decides_judgeOperation (coarse : List (Addition Op Unit))
    (fine : List (Addition Op (Target R))) (s : Option Subject) (op : Op) :
    Decides coarse op s () ((build coarse fine).judgeOperation s op).1 :=
  decides_build coarse op s () (judgeOperation_fst ..)

theorem decides_judgeObject (coarse : List (Addition Op Unit))
    (fine : List (Addition Op (Target R))) (s : Option Subject) (op : Op) (target : Target R) :
    Decides fine op s target ((build coarse fine).judgeObject s op target).1 :=
  decides_build fine op s target (judgeObject_fst ..)

/-- **Policies are what was pushed.** At both levels the chain of an operation holds the checkers
that were pushed for it, in this order; a caller passes exactly if one of them allows, and they are
asked up to the first that does. So additions may come in any order, and more of them turn nobody
away who was let pass. -/
theorem decides_as_pushed (coarse : List (Addition Op Unit)) (fine : List (Addition Op (Target R)))
    (s : Option Subject) (op : Op) (target : Target R) :
    Decides coarse op s () ((build coarse fine).judgeOperation s op).1 ∧
    Decides fine op s target ((build coarse fine).judgeObject s op target).1 ∧
    (∀ coarse' fine', coarse.Perm coarse' → fine.Perm fine' →
      ((build coarse' fine').judgeOperation s op).1 =
        ((build coarse fine).judgeOperation s op).1 ∧
      ((build coarse' fine').judgeObject s op target).1 =
        ((build coarse fine).judgeObject s op target).1) ∧
    (∀ coarse' fine', coarse ⊆ coarse' → fine ⊆ fine' →
      (((build coarse fine).judgeOperation s op).1 = .ok () →
        ((build coarse' fine').judgeOperation s op).1 = .ok ()) ∧
      (((build coarse fine).judgeObject s op target).1 = .ok () →
        ((build coarse' fine').judgeObject s op target).1 = .ok ())) := by
  refine ⟨decides_judgeOperation .., decides_judgeObject .., ?_, ?_⟩
  · intro coarse' fine' hcoarse hfine
    exact ⟨(decides_judgeOperation ..).eq_of_perm (decides_judgeOperation ..) hcoarse.symm,
      (decides_judgeObject ..).eq_of_perm (decides_judgeObject ..) hfine.symm⟩
  · intro coarse' fine' hcoarse hfine
    exact ⟨(decides_judgeOperation ..).of_subset (decides_judgeOperation ..) hcoarse,
      (decides_judgeObject ..).of_subset (decides_judgeObject ..) hfine⟩

/-- Additions that mix operations and leave one of them without a checker. -/
def interleaved (Q : Type) : List (Addition Operation Q) :=
  [.chain .create [.user], .predicate .list fun s _ => s.isSome, .chain .delete [],
    .rule .list (Builtin.anybody.checker Q), .push .list (Builtin.admin.checker Q)]

/-- Anybody lists whatever the order of the additions is, and also when nobody is listed before;
what no checker was pushed for is denied. -/
theorem decides_interleaved :
    let judge (as : List (Addition Operation Unit)) (op : Operation) :=
      ((build as (interleaved (Target Company.resource))).judgeOperation none op).1
    judge (interleaved Unit) .list = .ok () ∧ judge (interleaved Unit).reverse .list = .ok () ∧
      judge (.chain .list [.nobody] :: interleaved Unit) .list = .ok () ∧
      judge (interleaved Unit) .delete = .error .permissionDenied := by
  obtain ⟨hlist, -, hperm, hmore⟩ := decides_as_pushed (interleaved Unit)
    (interleaved (Target Company.resource)) none Operation.list (.filter .any)
  have hopen : Builtin.anybody.checker Unit ∈ pushed (interleaved Unit) .list := by
    simp [interleaved, mem_pushed, Addition.pushes]
  have hbare (c : Checker Unit) : c ∉ pushed (interleaved Unit) .delete := by
    simp [interleaved, mem_pushed, Addition.pushes]
  have hok := hlist.allowed.mpr ⟨_, hopen, rfl⟩
  refine ⟨hok, ?_, (hmore _ _ (List.subset_cons_self ..) fun _ h => h).1 hok, ?_⟩
  · exact (hperm _ _ (List.reverse_perm _).symm (.refl _)).1.trans hok
  · have hdelete := (decides_as_pushed (interleaved Unit) (interleaved (Target Company.resource))
      none Operation.delete (.filter .any)).1
    exact hdelete.denied.mpr fun ⟨c, hc, _⟩ => hbare c hc

end Evaluator

end Gatehouse
