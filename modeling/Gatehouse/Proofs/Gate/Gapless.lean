import Gatehouse.Proofs.Policy.Evaluation
import Gatehouse.Proofs.Gate.News

/-!
# Gaps

Tables are searched for gaps once, before there is a gate. A question that meets a gap later is
denied and reported as an error. The search is exact: it finds a gap exactly if some question about
one of the operations would be so reported, and it names the first of these, the coarse level before
the level of objects. So no request through a gate is ever reported, wherever it may be cut off.

The vocabulary of the statement is `ReachesGap`, a question that is reported, `FirstGap`, the first
gap in the order of the search, and `Gapless`, a gate without reports.
-/

namespace Gatehouse

/-! ## Tables -/

namespace Table

variable {Op Q : Type} [OperationSet Op] {t : Table Op Q}

/-- The first operation in order whose chain is missing or empty. -/
def FirstGap (t : Table Op Q) (op : Op) : Prop :=
  t.checkers op = [] ∧ ∃ before after, OperationSet.all = before ++ op :: after ∧
    ∀ o ∈ before, t.checkers o ≠ []

omit [OperationSet Op] in
theorem judge_eq_gap {op : Op} {s : Option Subject} {q : Q} :
    t.judge op s q = .gap ↔ t.checkers op = [] := by
  rw [judge]
  cases t.checkers op with
  | nil => simp
  | cons c cs =>
    simp only [reduceCtorEq, iff_false]
    split <;> simp

theorem ensureComplete_eq_ok {level : PolicyLevel} :
    t.ensureComplete level = .ok () ↔ ∀ op ∈ OperationSet.all, t.checkers op ≠ [] := by
  have hgaps : t.gaps = [] ↔ ∀ op ∈ OperationSet.all, t.checkers op ≠ [] := by
    simp [gaps, List.filter_eq_nil_iff]
  rw [← hgaps, ensureComplete]
  split <;> simp_all

theorem gaps_eq_cons {op : Op} : (∃ ops, t.gaps = op :: ops) ↔ t.FirstGap op := by
  simp only [gaps, List.filter_eq_cons_iff, List.isEmpty_iff, FirstGap]
  constructor
  · rintro ⟨ops, before, after, hall, hbefore, hop, -⟩
    exact ⟨hop, before, after, hall, hbefore⟩
  · rintro ⟨hop, before, after, hall, hbefore⟩
    exact ⟨_, before, after, hall, hbefore, hop, rfl⟩

theorem ensureComplete_eq_error {level : PolicyLevel} {why : PolicyError} :
    t.ensureComplete level = .error why ↔
      ∃ op, t.FirstGap op ∧ why = .missingChain level (OperationSet.name op) := by
  simp only [← gaps_eq_cons, ensureComplete]
  cases t.gaps with
  | nil => simp
  | cons op ops => simp [eq_comm]

end Table

/-! ## Evaluators -/

namespace Evaluator

variable {Op : Type} [OperationSet Op] {R : Resource} {e : Evaluator Op R} {s : Option Subject}
  {op : Op} {target : Target R}

/-- The entry that a question leaves at a level. The coarse one is not about the target. -/
def entry (e : Evaluator Op R) (level : PolicyLevel) (op : Op) (s : Option Subject)
    (target : Target R) : Log.Entry :=
  match level with
  | .operation => (e.judgeOperation s op).2
  | .object => (e.judgeObject s op target).2

/-- A question is reported to have met a gap. -/
def ReachesGap (e : Evaluator Op R) (level : PolicyLevel) (op : Op) (s : Option Subject)
    (target : Target R) : Prop :=
  e.entry level op s target = gapEntry level op

/-- There is nothing to judge by at a level. -/
def Lacks (e : Evaluator Op R) : PolicyLevel → Op → Prop
  | .operation, op => e.operations.checkers op = []
  | .object, op => e.objects.checkers op = []

/-- The first gap in the order of the search: there is none before at its level, and none at all at
the coarse level if it is one of objects. -/
structure FirstGap (e : Evaluator Op R) (s : Option Subject) (target : Target R)
    (level : PolicyLevel) (op : Op) : Prop where
  reached : e.ReachesGap level op s target
  first : ∃ before after, OperationSet.all = before ++ op :: after ∧
    ∀ o ∈ before, ¬e.ReachesGap level o s target
  coarse : level = .object → ∀ o ∈ OperationSet.all, ¬e.ReachesGap .operation o s target

theorem debug_ne_gapEntry {message : String} {fields : List (String × String)}
    {level : PolicyLevel} : Log.debug message fields ≠ gapEntry level op := by
  intro h
  cases congrArg Log.Entry.level h

theorem conclude_snd_eq_gapEntry {Q : Type} {level : PolicyLevel}
    {details : List (String × String)} {v : Verdict Q} :
    (conclude level op s details v).2 = gapEntry level op ↔ v = .gap := by
  cases v with
  | allowed c => exact iff_of_false debug_ne_gapEntry nofun
  | exhausted => exact iff_of_false debug_ne_gapEntry nofun
  | gap => exact iff_of_true rfl rfl

/-- Whether a question meets a gap depends on its level and its operation alone. -/
theorem reachesGap_iff {level : PolicyLevel} :
    e.ReachesGap level op s target ↔ e.Lacks level op := by
  cases level with
  | operation => exact conclude_snd_eq_gapEntry.trans Table.judge_eq_gap
  | object => exact conclude_snd_eq_gapEntry.trans Table.judge_eq_gap

theorem ensureComplete_eq_ok :
    e.ensureComplete = .ok () ↔ ∀ op ∈ OperationSet.all, ∀ level, ¬e.Lacks level op := by
  have hlevels : e.ensureComplete = .ok () ↔ e.operations.ensureComplete .operation = .ok () ∧
      e.objects.ensureComplete .object = .ok () := by
    rw [ensureComplete]
    cases e.operations.ensureComplete .operation with
    | error why => simp [Bind.bind, Except.bind]
    | ok u => simp [Bind.bind, Except.bind]
  rw [hlevels, Table.ensureComplete_eq_ok, Table.ensureComplete_eq_ok]
  constructor
  · rintro ⟨hcoarse, hfine⟩ op hop level
    cases level with
    | operation => exact hcoarse op hop
    | object => exact hfine op hop
  · intro h
    exact ⟨fun op hop => h op hop .operation, fun op hop => h op hop .object⟩

theorem ensureComplete_eq_error {why : PolicyError} : e.ensureComplete = .error why ↔
    e.operations.ensureComplete .operation = .error why ∨
      (∀ op ∈ OperationSet.all, ¬e.Lacks .operation op) ∧
        e.objects.ensureComplete .object = .error why := by
  have hok : e.operations.ensureComplete .operation = .ok () ↔
      ∀ op ∈ OperationSet.all, ¬e.Lacks .operation op := Table.ensureComplete_eq_ok
  rw [ensureComplete]
  cases h : e.operations.ensureComplete .operation with
  | error other =>
    rw [h] at hok
    have hlacks : ¬∀ op ∈ OperationSet.all, ¬e.Lacks .operation op := fun hno => by
      cases hok.mpr hno
    simp [Bind.bind, Except.bind, hlacks]
  | ok u =>
    have hlacks : ∀ op ∈ OperationSet.all, ¬e.Lacks .operation op := hok.mp h
    simpa [Bind.bind, Except.bind] using fun _ => hlacks

theorem firstGap_operation :
    e.FirstGap s target .operation op ↔ e.operations.FirstGap op := by
  constructor
  · rintro ⟨hop, ⟨before, after, hall, hbefore⟩, -⟩
    exact ⟨reachesGap_iff.mp hop, before, after, hall, fun o ho hgap =>
      hbefore o ho (reachesGap_iff.mpr hgap)⟩
  · rintro ⟨hop, before, after, hall, hbefore⟩
    exact ⟨reachesGap_iff.mpr hop, ⟨before, after, hall, fun o ho hgap =>
      hbefore o ho (reachesGap_iff.mp hgap)⟩, nofun⟩

theorem firstGap_object : e.FirstGap s target .object op ↔
    (∀ o ∈ OperationSet.all, ¬e.Lacks .operation o) ∧ e.objects.FirstGap op := by
  constructor
  · rintro ⟨hop, ⟨before, after, hall, hbefore⟩, hcoarse⟩
    refine ⟨fun o ho hgap => hcoarse rfl o ho (reachesGap_iff.mpr hgap), reachesGap_iff.mp hop, ?_⟩
    exact ⟨before, after, hall, fun o ho hgap => hbefore o ho (reachesGap_iff.mpr hgap)⟩
  · rintro ⟨hcoarse, hop, before, after, hall, hbefore⟩
    refine ⟨reachesGap_iff.mpr hop, ?_, fun _ o ho hgap => hcoarse o ho (reachesGap_iff.mp hgap)⟩
    exact ⟨before, after, hall, fun o ho hgap => hbefore o ho (reachesGap_iff.mp hgap)⟩

/-- The search passes exactly if no question is reported. -/
theorem passes_iff (s : Option Subject) (target : Target R) : e.ensureComplete = .ok () ↔
    ∀ op ∈ OperationSet.all, ∀ level, ¬e.ReachesGap level op s target := by
  simp only [reachesGap_iff]
  exact ensureComplete_eq_ok

/-- The search names the first question that is reported. -/
theorem names_iff (s : Option Subject) (target : Target R) {why : PolicyError} :
    e.ensureComplete = .error why ↔ ∃ level op, e.FirstGap s target level op ∧
      why = .missingChain level (OperationSet.name op) := by
  rw [ensureComplete_eq_error, Table.ensureComplete_eq_error, Table.ensureComplete_eq_error]
  constructor
  · rintro (⟨op, hfirst, rfl⟩ | ⟨hcoarse, op, hfirst, rfl⟩)
    · exact ⟨.operation, op, firstGap_operation.mpr hfirst, rfl⟩
    · exact ⟨.object, op, firstGap_object.mpr ⟨hcoarse, hfirst⟩, rfl⟩
  · rintro ⟨level, op, hfirst, rfl⟩
    cases level with
    | operation => exact .inl ⟨op, firstGap_operation.mp hfirst, rfl⟩
    | object =>
      obtain ⟨hcoarse, hfirst⟩ := firstGap_object.mp hfirst
      exact .inr ⟨hcoarse, op, hfirst, rfl⟩

/-- A chain is missing where nothing was pushed, whether or not the operation was mentioned. -/
theorem reachesGap_build {coarse : List (Addition Op Unit)} {fine : List (Addition Op (Target R))} :
    ((build coarse fine).ReachesGap .operation op s target ↔ pushed coarse op = []) ∧
      ((build coarse fine).ReachesGap .object op s target ↔ pushed fine op = []) := by
  constructor
  · exact reachesGap_iff.trans (Table.checkers_build coarse op ▸ Iff.rfl)
  · exact reachesGap_iff.trans (Table.checkers_build fine op ▸ Iff.rfl)

end Evaluator

/-! ## Requests -/

namespace Gate

open Attempt

variable {Op : Type} {K : Resource} {ι σ β : Type}

section Reports

variable [OperationSet Op]

/-- Questions other than the report of a gap. -/
def NoReport (Op : Type) [OperationSet Op] (q : GateCall K) : Prop :=
  ∀ level (op : Op), q ≠ .log (Evaluator.gapEntry level op)

/-- A run in which no gap is reported. -/
def Unreported (Op : Type) [OperationSet Op] (t : Trace (gateSignature K)) : Prop :=
  ∀ level (op : Op), ⟨.log (Evaluator.gapEntry level op), ()⟩ ∉ t

theorem noReport_poll : NoReport Op (K := K) .poll := fun _ _ => nofun

theorem noReport_log (message : String) (fields : List (String × String)) :
    NoReport Op (K := K) (.log (Log.debug message fields)) :=
  fun _ _ h => Evaluator.debug_ne_gapEntry (GateCall.log.inj h)

/-- The report of a failed delivery is not one of a gap. -/
theorem noReport_undelivered (change : Change) (fields : List (String × String)) :
    NoReport Op (K := K) (.log (Log.error s!"can't send '{change.name}' event" fields)) := by
  intro level op h
  have hmessage : s!"can't send '{change.name}' event" =
      "policy table has no chain for operation; denying" :=
    congrArg Log.Entry.message (GateCall.log.inj h)
  cases change <;> exact absurd hmessage (by decide)

theorem noReport_conclude {Q : Type} {level : PolicyLevel} {op : Op} {s : Option Subject}
    {details : List (String × String)} {v : Verdict Q} (hv : v ≠ .gap) :
    NoReport Op (K := K) (.log (Evaluator.conclude level op s details v).2) := by
  cases v with
  | allowed c => exact noReport_log _ _
  | exhausted => exact noReport_log _ _
  | gap => exact absurd rfl hv

theorem unreported_of_begins {α : Type} {p : Program (gateSignature K) α}
    (hp : p.AsksOnly (NoReport Op)) {t : Trace (gateSignature K)} (h : p.Begins t) :
    Unreported Op t :=
  fun level op hmem => hp.of_begins h _ hmem level op rfl

variable {g : Gate Op K} {op : Op} {s : Option Subject}

/-- A gate has a chain for each of the listed operations at both levels. -/
theorem not_lacks (g : Gate Op K) (hop : op ∈ OperationSet.all) (level : PolicyLevel) :
    ¬g.evaluator.Lacks level op :=
  Evaluator.ensureComplete_eq_ok.mp g.complete op hop level

theorem noReport_fetch (id : K.Id) : AsksOnly (NoReport Op) (fetch id) :=
  asksOnly_fetch noReport_poll noReport_log fun _ _ => nofun

theorem noReport_steps (hop : op ∈ OperationSet.all) : CoversSteps (NoReport Op) g op where
  poll := noReport_poll
  details := noReport_log
  verify _ _ _ := nofun
  consult _ _ _ _ := nofun
  coarse _ := noReport_conclude (mt Table.judge_eq_gap.mp (g.not_lacks hop .operation))
  fine _ _ := noReport_conclude (mt Table.judge_eq_gap.mp (g.not_lacks hop .object))

theorem noReport_work {m : Mutation K ι σ β} {i : ι} {seen : σ} :
    AsksOnly (NoReport Op) (m.work i seen) := by
  refine (asksOnly_storing fun _ _ => nofun).bind fun reply => ?_
  refine (asksOnly_asking (noReport_log _ _)).bind fun _ => ?_
  refine (asksOnly_announce noReport_log (fun _ _ => nofun) ?_).bind fun _ => asksOnly_pure
  exact noReport_undelivered m.change

/-- A pipeline that changes the store reports no gap, neither in its checks nor in its task. -/
theorem noReport_mutation {m : Mutation K ι σ β} (hop : op ∈ OperationSet.all)
    (hsee : ∀ i, AsksOnly (NoReport Op) (m.see i)) {c : Caller} {input : Except Failure ι} :
    (request (m.checks g c op input)).carryOut.AsksOnly (NoReport Op) := by
  refine (asksOnly_request ((noReport_steps hop).checks hsee)).bind_of_ends fun t plan hplan => ?_
  cases plan with
  | answer x => trivial
  | task work finish =>
    obtain ⟨i, seen, _, _, _, rfl, rfl⟩ := task_of_ends hplan
    exact Program.AsksOnly.bind noReport_work fun _ => trivial

theorem noReport_answer {r : Request (gateSignature K) K.Entity (Except Failure β)}
    (hr : Program.AsksOnly (NoReport Op) r)
    (ha : ∀ t plan, Program.Ends r t plan → ∃ b, plan = .answer b) :
    r.carryOut.AsksOnly (NoReport Op) := by
  refine hr.bind_of_ends fun t plan hplan => ?_
  obtain ⟨b, rfl⟩ := ha t plan hplan
  trivial

end Reports

section Pipelines

variable [PipelineSet Op]

/-- No request through a gate reports a gap, wherever it may be cut off and whatever its
surroundings do. Surfaces that are no pipeline of their own are checked for a listed operation. -/
structure Gapless (g : Gate Op K) : Prop where
  create : ∀ c input t, (g.create c input).carryOut.Begins t → Unreported Op t
  get : ∀ c input t, (g.get c input).carryOut.Begins t → Unreported Op t
  list : ∀ c input t, (g.list c input).carryOut.Begins t → Unreported Op t
  update : ∀ c input t, (g.update c input).carryOut.Begins t → Unreported Op t
  delete : ∀ c input t, (g.delete c input).carryOut.Begins t → Unreported Op t
  authorize : ∀ c (op : Op), op ∈ OperationSet.all → ∀ t,
    (g.authorize c op).carryOut.Begins t → Unreported Op t

/-- The operations of the five pipelines are listed. -/
structure ListsPipelines (Op : Type) [PipelineSet Op] : Prop where
  list : (PipelineSet.list : Op) ∈ OperationSet.all
  detail : (PipelineSet.detail : Op) ∈ OperationSet.all
  create : (PipelineSet.create : Op) ∈ OperationSet.all
  update : (PipelineSet.update : Op) ∈ OperationSet.all
  delete : (PipelineSet.delete : Op) ∈ OperationSet.all

theorem gapless_of_lists (g : Gate Op K) (h : ListsPipelines Op) : g.Gapless where
  create _ _ _ := unreported_of_begins
    (noReport_mutation (m := creation) h.create fun _ => asksOnly_pure)
  update _ _ _ := unreported_of_begins
    (noReport_mutation (m := alteration) h.update fun _ => noReport_fetch _)
  delete _ _ _ := unreported_of_begins
    (noReport_mutation (m := removal) h.delete noReport_fetch)
  get c _ _ := unreported_of_begins
    (noReport_answer ((noReport_steps h.detail).get fun _ _ _ => nofun) fun _ _ => answer_of_get g c)
  list c _ _ := unreported_of_begins
    (noReport_answer ((noReport_steps h.list).list (fun _ _ _ => nofun) fun _ _ _ => nofun)
      fun _ _ => answer_of_list g c)
  authorize c _ hop _ := unreported_of_begins
    (noReport_answer (noReport_steps hop).authorize fun _ _ => answer_of_authorize g c)

end Pipelines

end Gate

theorem Operation.listsPipelines : Gate.ListsPipelines Operation where
  list := mem_all _
  detail := mem_all _
  create := mem_all _
  update := mem_all _
  delete := mem_all _

/-! ## The headline -/

/-- **The search for gaps is exact.** Whoever asks and whatever it is about, tables pass exactly if
no question about a listed operation is reported at either level, and otherwise the first that is
reported is named. A question to tables that were made by additions is reported exactly if nothing
was pushed for its operation at its level. No request through a gate that was made is reported, if
the operations of its pipelines are listed, as they are for companies. -/
theorem startup_search_exact {R : Resource} :
    (∀ {Op : Type} [OperationSet Op] (e : Evaluator Op R) (s : Option Subject) (target : Target R),
      (e.ensureComplete = .ok () ↔
        ∀ op ∈ OperationSet.all, ∀ level, ¬e.ReachesGap level op s target) ∧
      ∀ why, e.ensureComplete = .error why ↔ ∃ level op, e.FirstGap s target level op ∧
        why = .missingChain level (OperationSet.name op)) ∧
    (∀ {Op : Type} [OperationSet Op] (coarse : List (Addition Op Unit))
        (fine : List (Addition Op (Target R))) (op : Op) (s : Option Subject) (target : Target R),
      ((Evaluator.build coarse fine).ReachesGap .operation op s target ↔ pushed coarse op = []) ∧
      ((Evaluator.build coarse fine).ReachesGap .object op s target ↔ pushed fine op = [])) ∧
    (∀ {Op : Type} [PipelineSet Op] (e : Evaluator Op R) (g : Gate Op R), Gate.of e = .ok g →
      Gate.ListsPipelines Op → g.evaluator = e ∧ g.Gapless) ∧
    ∀ (p : PolicySettings) (g : CompanyGate), CompanyGate.ofSettings p = .ok g →
      g.evaluator = p.tables Company.resource ∧ g.Gapless := by
  refine ⟨fun e s target => ⟨Evaluator.passes_iff s target, fun _ => Evaluator.names_iff s target⟩,
    fun _ _ _ _ _ => Evaluator.reachesGap_build, ?_, ?_⟩
  · intro Op _ e g hg hlists
    exact ⟨Gate.evaluator_of hg, g.gapless_of_lists hlists⟩
  · intro p g hg
    exact ⟨CompanyGate.evaluator_of_ofSettings hg, g.gapless_of_lists Operation.listsPipelines⟩

/-- A policy that mentions deletions at the level of objects without a checker. -/
def PolicySettings.undeletable : PolicySettings := ⟨.standard, Chains.standard.set .delete []⟩

/-- Tables that leave deletions of objects without a checker are refused for this; with the standard
policy there is a gate, and a request through it that goes well is not reported. -/
theorem startup_search_exact_undeletable :
    (PolicySettings.undeletable.tables Company.resource).ensureComplete =
        .error (.missingChain .object "company_delete") ∧
      ∃ g, CompanyGate.ofSettings .standard = .ok g ∧ Gate.Unreported Operation
        (Gate.smoothRun (g.create ⟨some "token"⟩ (.ok Gate.plainDraft))) := by
  obtain ⟨hsearch, -, -, hgate⟩ := startup_search_exact (R := Company.resource)
  constructor
  · refine ((hsearch _ none (.filter .any)).2 _).mpr ⟨.object, .delete, ⟨rfl, ?_, ?_⟩, rfl⟩
    · refine ⟨[.list, .detail, .create, .update], [], rfl, fun o ho hgap => ?_⟩
      have hlacks := Evaluator.reachesGap_iff.mp hgap
      cases o with
      | list | detail | create | update => cases hlacks
      | delete => simp at ho
    · intro _ o _ hgap
      have hlacks := Evaluator.reachesGap_iff.mp hgap
      cases o <;> cases hlacks
  · have hmade : ∃ g, CompanyGate.ofSettings .standard = .ok g := ⟨_, rfl⟩
    obtain ⟨g, hg⟩ := hmade
    exact ⟨g, hg, (hgate _ g hg).2.create _ _ _ (Gate.begins_smoothRun _)⟩

end Gatehouse
