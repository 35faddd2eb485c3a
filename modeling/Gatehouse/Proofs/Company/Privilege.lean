import Gatehouse.Proofs.Company.Effects
import Gatehouse.Proofs.Gate.Favour

/-!
# More privileged callers

A configured policy lists stock checkers, and each of them lets a caller pass whom it would let pass
with less standing: without a credential, or without being an administrator. So the tables of a
configured policy favour the caller of higher standing, and with them the whole request does: nobody
loses by presenting a credential, or a better one.

The vocabulary of the statement is `Impartial`, surroundings in which only the verifier tells
callers apart, `Errand.outcome`, what a request comes to in such surroundings, and `LosesNothing`.
-/

namespace Gatehouse

/-- One caller has the standing of another one, or a higher one. -/
structure Subject.StandsAbove (s' s : Option Subject) : Prop where
  known : s.isSome → s'.isSome
  admin : s.any Subject.admin → s'.any Subject.admin

theorem Subject.standsAbove_none (s : Option Subject) : StandsAbove s none where
  known h := absurd h (by simp)
  admin h := absurd h (by simp)

theorem Subject.standsAbove_of_admin (s : Option Subject) {a : Subject} (ha : a.admin = true) :
    StandsAbove (some a) s where
  known _ := rfl
  admin _ := ha

/-! ## Both levels -/

open Subject (StandsAbove)

variable {s s' : Option Subject}

theorem Builtin.allows_of_standsAbove (h : StandsAbove s' s) (b : Builtin) (hb : b.allows s) :
    b.allows s' := by
  cases b with
  | anybody => rfl
  | user => exact h.known hb
  | nobody => exact hb
  | admin => exact h.admin hb

/-- A chain that lets a caller pass has a checker that does, and this checker also lets pass whoever
stands above. -/
theorem Chains.allows_of_standsAbove (h : StandsAbove s' s) (c : Chains) (op : Operation)
    (hc : c.allows op s) : c.allows op s' := by
  obtain ⟨b, hmem, hb⟩ := List.any_eq_true.mp hc
  exact List.any_eq_true.mpr ⟨b, hmem, b.allows_of_standsAbove h hb⟩

theorem Table.mem_checkers_of_mem_asked {Op Q : Type} [OperationSet Op] {t : Table Op Q} {op : Op}
    {q : Q} {c : Checker Q} (h : c ∈ t.asked op s q) : c ∈ t.checkers op := by
  rw [asked] at h
  generalize t.checkers op = cs at h
  induction cs with
  | nil => exact h
  | cons d ds ih =>
    simp only [asked.upToAllowing] at h
    split at h
    · exact List.mem_cons.mpr (.inl (List.mem_singleton.mp h))
    · rcases List.mem_cons.mp h with rfl | h
      · exact List.mem_cons_self
      · exact List.mem_cons_of_mem d (ih h)

/-- No stock checker is reported by a mark. -/
theorem Chains.marks_asked (Q : Type) (c : Chains) (op : Operation) (s : Option Subject) (q : Q) :
    ((c.table Q).asked op s q).filterMap Checker.mark = [] := by
  rw [List.filterMap_eq_nil_iff]
  intro d hd
  have hmem : d ∈ (c.table Q).checkers op := Table.mem_checkers_of_mem_asked hd
  rw [checkers_table] at hmem
  obtain ⟨b, -, rfl⟩ := List.mem_map.mp hmem
  rfl

/-- The tables of a configured policy favour whoever stands above. -/
theorem CompanyGate.favours_of_standsAbove {p : PolicySettings} {g : CompanyGate}
    (hg : CompanyGate.ofSettings p = .ok g) (h : StandsAbove s' s) : g.Favours s s' := by
  have hevaluator : g.evaluator = p.tables Company.resource := evaluator_of_ofSettings hg
  have hoperations : g.evaluator.operations = p.operations.table Unit := by rw [hevaluator]; rfl
  have hobjects : g.evaluator.objects = p.objects.table (Target Company.resource) := by
    rw [hevaluator]
    rfl
  constructor
  · intro op hop
    rw [hoperations, Chains.allows_table] at hop ⊢
    exact p.operations.allows_of_standsAbove h op hop
  · intro op target hobj
    rw [hobjects, Chains.allows_table] at hobj ⊢
    exact p.objects.allows_of_standsAbove h op hobj
  · intro op
    rw [hoperations, Chains.marks_asked, Chains.marks_asked]
  · intro op target
    rw [hobjects, Chains.marks_asked, Chains.marks_asked]

/-! ## Requests -/

section Requests

variable {σ : Type} {verify : Option String → Except AuthError (Option Subject)}
  {answer : σ → (q : SystemCall) → q.Answer × σ} {g : CompanyGate} {c c' : Caller}

/-- Surroundings of the whole system that find out who a caller is, and in which nothing else
depends on it, nor on what is written to the log. -/
structure Impartial (verify : Option String → Except AuthError (Option Subject))
    (answer : σ → (q : SystemCall) → q.Answer × σ) : Prop where
  verified : ∀ state token, (answer state (.verify token)).1 = verify token
  unmoved : ∀ state token token',
    (answer state (.verify token)).2 = (answer state (.verify token')).2
  unread : ∀ state entry entry', (answer state (.log entry)).2 = (answer state (.log entry')).2

/-- The service passes on to its surroundings what the gate asks of them. -/
theorem Impartial.atGate (h : Impartial verify answer) (s : PagingSettings) :
    Gate.Impartial verify fun state (q : GateCall Company.resource) =>
      ((Service.answering s q).walk answer state).2 where
  verified := h.verified
  unmoved := h.unmoved
  unread := h.unread

namespace Errand

/-- A result without the name of the caller, which only the check of an operation by itself tells.
-/
def Result.nameless : Result → Result
  | caller _ => caller none
  | r => r

/-- What a request comes to in the end, with the state in which it leaves its surroundings. -/
def outcome (answer : σ → (q : SystemCall) → q.Answer × σ) (g : CompanyGate) (s : PagingSettings)
    (c : Caller) (e : Errand) (state : σ) : Except Failure Result × σ :=
  ((e.request g s c).carryOut.walk answer state).2

/-- A request of a favoured caller follows the same request of the other one. -/
theorem follows_atGate {answer : σ → (q : GateCall Company.resource) → q.Answer × σ}
    (hsurr : Gate.Impartial verify answer) (hs : verify c.token = .ok s)
    (hs' : verify c'.token = .ok s') (hg : g.Favours s s') (e : Errand) :
    Gate.Follows answer (fun r r' => r.nameless = r'.nameless) (e.atGate g c).carryOut
      (e.atGate g c').carryOut := by
  cases e with
  | create input => exact (Gate.follows_create hsurr hs hs' hg input).map fun _ _ h => by rw [h]
  | get input => exact (Gate.follows_get hsurr hs hs' hg input).map fun _ _ h => by rw [h]
  | list input => exact (Gate.follows_list hsurr hs hs' hg input).map fun _ _ h => by rw [h]
  | update input => exact (Gate.follows_update hsurr hs hs' hg input).map fun _ _ h => by rw [h]
  | delete input => exact (Gate.follows_delete hsurr hs hs' hg input).map fun _ _ _ => rfl
  | authorize op => exact (Gate.follows_authorize hsurr hs hs' hg op).map fun _ _ _ => rfl

end Errand

/-- Whatever the first caller is not denied, the second one is not denied either: the request does
the same, and its answers differ at most in the name of the caller. -/
def LosesNothing (answer : σ → (q : SystemCall) → q.Answer × σ) (g : CompanyGate)
    (s : PagingSettings) (c c' : Caller) : Prop :=
  ∀ (e : Errand) (state : σ), (e.outcome answer g s c state).1 ≠ .error .permissionDenied →
    (e.outcome answer g s c' state).1 ≠ .error .permissionDenied ∧
    (e.outcome answer g s c' state).1.map Errand.Result.nameless =
      (e.outcome answer g s c state).1.map Errand.Result.nameless ∧
    (e.outcome answer g s c' state).2 = (e.outcome answer g s c state).2

theorem losesNothing_of_favours (hsurr : Impartial verify answer) (ps : PagingSettings)
    (hs : verify c.token = .ok s) (hs' : verify c'.token = .ok s') (hg : g.Favours s s') :
    LosesNothing answer g ps c c' := by
  intro e state hne
  have hwalk : ∀ d, e.outcome answer g ps d state = ((e.atGate g d).carryOut.walk
      (fun state q => ((Service.answering ps q).walk answer state).2) state).2 := by
    intro d
    rw [Errand.outcome, Errand.request, CompanyGate.withService, Request.carryOut_refine]
    exact Program.walk_refine ..
  rw [hwalk] at hne
  rw [hwalk, hwalk]
  rcases Errand.follows_atGate (hsurr.atGate ps) hs hs' hg e state with
    hdenied | ⟨halike, hstate⟩
  · exact absurd hdenied hne
  · refine ⟨halike.ne_error hne, halike.map_eq fun _ _ h => h.symm, hstate.symm⟩

end Requests

/-! ## The headline -/

/-- **Nobody loses by a credential.** Under every configured policy without a gap, whatever the
chains of either level let an anonymous caller pass for they let every caller pass for, and whatever
they let some caller pass for they let an administrator pass for. And in all surroundings that tell
callers apart by the verifier alone, whatever the store holds, whoever else changes it and whenever
the signal to cancel comes, every request that is not denied to an anonymous caller is not denied to
a verified one, and every request that is not denied to a verified caller is not denied to an
administrator; it does the same for them. -/
theorem privilege_monotone {p : PolicySettings} {g : CompanyGate}
    (hg : CompanyGate.ofSettings p = .ok g) {u a : Subject} (ha : a.admin = true) :
    (∀ op : Operation,
      (g.evaluator.operations.allows op none () → g.evaluator.operations.allows op (some u) ()) ∧
      (g.evaluator.operations.allows op (some u) () →
        g.evaluator.operations.allows op (some a) ())) ∧
    (∀ (op : Operation) (target : Target Company.resource),
      (g.evaluator.objects.allows op none target →
        g.evaluator.objects.allows op (some u) target) ∧
      (g.evaluator.objects.allows op (some u) target →
        g.evaluator.objects.allows op (some a) target)) ∧
    ∀ {σ : Type} {verify : Option String → Except AuthError (Option Subject)}
      {answer : σ → (q : SystemCall) → q.Answer × σ} (s : PagingSettings)
      (anonymous user admin : Caller), Impartial verify answer →
      verify anonymous.token = .ok none → verify user.token = .ok (some u) →
      verify admin.token = .ok (some a) →
      LosesNothing answer g s anonymous user ∧ LosesNothing answer g s user admin := by
  have huser : g.Favours none (some u) :=
    CompanyGate.favours_of_standsAbove hg (Subject.standsAbove_none _)
  have hadmin : g.Favours (some u) (some a) :=
    CompanyGate.favours_of_standsAbove hg (Subject.standsAbove_of_admin _ ha)
  refine ⟨fun op => ⟨huser.coarse op, hadmin.coarse op⟩,
    fun op target => ⟨huser.fine op target, hadmin.fine op target⟩, ?_⟩
  intro σ verify answer s anonymous user admin hsurr hanonymous hverified hverified'
  exact ⟨losesNothing_of_favours hsurr s hanonymous hverified huser,
    losesNothing_of_favours hsurr s hverified hverified' hadmin⟩

/-- A verifier that knows a user and an administrator. -/
def twoKnown : Option String → Except AuthError (Option Subject)
  | some "user" => .ok (some (Subject.ofId "u1"))
  | some "admin" => .ok (some ⟨"a1", true, []⟩)
  | some _ => .error (.invalidToken (.malformed ""))
  | none => .ok none

/-- Answers that come from a registry and from such a verifier. -/
def twoKnownAnswer : Registry → (q : SystemCall) → q.Answer × Registry :=
  Registry.answer fun
    | .verify token => twoKnown token
    | q => Traffic.calm q

/-- Under the standard policy a user deletes the one company; an administrator would not be denied
either. -/
theorem privilege_monotone_deletion : ∃ g, CompanyGate.ofSettings .standard = .ok g ∧
    let deletion := Errand.delete (.ok Traffic.plainCompany.id)
    let registry := Registry.sole Traffic.plainCompany
    (deletion.outcome twoKnownAnswer g .standard ⟨some "user"⟩ registry).1 = .ok .deleted ∧
    (deletion.outcome twoKnownAnswer g .standard ⟨some "admin"⟩ registry).1 ≠
      .error .permissionDenied := by
  obtain ⟨g, hg⟩ : ∃ g, CompanyGate.ofSettings .standard = .ok g := ⟨_, rfl⟩
  obtain ⟨-, -, hrequests⟩ :=
    privilege_monotone hg (u := Subject.ofId "u1") (a := ⟨"a1", true, []⟩) rfl
  have hsurr : Impartial twoKnown twoKnownAnswer :=
    ⟨fun _ _ => rfl, fun _ _ _ => rfl, fun _ _ _ => rfl⟩
  obtain ⟨-, hadmin⟩ := hrequests .standard .anonymous ⟨some "user"⟩ ⟨some "admin"⟩ hsurr
    rfl rfl rfl
  have hdeleted : (Errand.outcome twoKnownAnswer g .standard ⟨some "user"⟩
      (.delete (.ok Traffic.plainCompany.id)) (Registry.sole Traffic.plainCompany)).1 =
      .ok .deleted := by
    cases hg
    rfl
  refine ⟨g, hg, hdeleted, (hadmin _ _ ?_).1⟩
  rw [hdeleted]
  simp

end Gatehouse
