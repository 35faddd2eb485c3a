import Gatehouse.Proofs.Gate.Clearance

/-!
# What a refusal depends on

A request that is found cancelled, whose credential does not verify or whose caller is turned away by
the coarse check ends without a look at its input, and before a checker of targets, the store or a
sink is called. So a refusal says nothing about them: two requests with different input, in front of
stores and sinks that differ in everything, ask the same questions and get the same answer. Malformed
input is reported only to those who pass these steps, and then nothing else is looked at either.

The vocabulary of the statements is `Under`, a run with a given signal and a given verifier,
`Settled`, that the steps before the input decide the request, `StaysOutside`, a run without a call
beyond the coarse check, and `Discreet`, a pipeline that keeps all this.
-/

namespace Gatehouse

/-- Whether a call goes beyond the coarse check: to a checker of targets, the store or a sink. -/
def GateCall.beyond {K : Resource} : GateCall K → Bool
  | consult .object _ | store _ | send _ => true
  | consult .operation _ | poll | verify _ | log _ => false

namespace Gate

open Attempt

variable {Op : Type} {K : Resource}

/-! ## Runs under a signal -/

/-- What a run was told, each time it looked whether it is cancelled. -/
def polled (t : Trace (gateSignature K)) : List Bool :=
  t.filterMap fun
    | ⟨.poll, b⟩ => some b
    | _ => none

/-- A run under a cancellation signal, given by what each look at it finds, with a verifier that
gives these answers. -/
structure Under (signal : Nat → Bool) (verify : Option String → Except AuthError (Option Subject))
    (t : Trace (gateSignature K)) : Prop where
  signalled : ∀ n b, (polled t)[n]? = some b → b = signal n
  verified : ∀ c x, ⟨.verify c, x⟩ ∈ t → x = verify c

/-- No call of the run goes beyond the coarse check. -/
def StaysOutside (t : Trace (gateSignature K)) : Prop := ∀ act ∈ t, act.question.beyond = false

/-- Questions that stay on this side of the coarse check. -/
def Outer (q : GateCall K) : Prop := q.beyond = false

section Runs

variable {signal : Nat → Bool} {verify : Option String → Except AuthError (Option Subject)}
  {t u : Trace (gateSignature K)}

theorem polled_append (t u : Trace (gateSignature K)) : polled (t ++ u) = polled t ++ polled u :=
  List.filterMap_append ..

theorem Under.of_append_left (h : Under signal verify (t ++ u)) : Under signal verify t where
  signalled n b hb := h.signalled n b (by
    rw [polled_append, List.getElem?_append_left (List.getElem?_eq_some_iff.mp hb).1]
    exact hb)
  verified c x hx := h.verified c x (List.mem_append_left _ hx)

/-- The first look of a run finds the signal as it is at first. -/
theorem Under.first (h : Under signal verify t) {b : Bool} {bs : List Bool}
    (hb : polled t = b :: bs) : signal 0 = b :=
  (h.signalled 0 b (by rw [hb]; rfl)).symm

theorem Under.second (h : Under signal verify t) {b₀ b : Bool} {bs : List Bool}
    (hb : polled t = b₀ :: b :: bs) : signal 1 = b :=
  (h.signalled 1 b (by rw [hb]; rfl)).symm

end Runs

/-! ## The steps before the input -/

section Front

variable [OperationSet Op] {g : Gate Op K} {c : Caller} {op : Op} {signal : Nat → Bool}
  {verify : Option String → Except AuthError (Option Subject)}

/-- The run of the steps before the input, and who may go on or what the request fails with. -/
def frontRun (g : Gate Op K) (signal : Nat → Bool)
    (verify : Option String → Except AuthError (Option Subject)) (c : Caller) (op : Op) :
    Trace (gateSignature K) × Except Failure (Option Subject) :=
  if signal 0 then (cancelledRun, .error .cancelled)
  else match verify c.token with
    | .error a => (rejectedRun c a, .error (.ofAuth a))
    | .ok s =>
      if signal 1 then (authenticatedRun c s ++ cancelledRun, .error .cancelled)
      else if g.evaluator.operations.allows op s () then (admittedRun g c op s, .ok s)
      else (authenticatedRun c s ++ operationRun g s op, .error .permissionDenied)

/-- The steps before the input decide the request: it is found cancelled, the credential does not
verify, or the coarse check is against the caller. -/
def Settled (g : Gate Op K) (signal : Nat → Bool)
    (verify : Option String → Except AuthError (Option Subject)) (c : Caller) (op : Op) : Prop :=
  signal 0 = true ∨ signal 1 = true ∨ (∃ a, verify c.token = .error a) ∨
    ∃ s, verify c.token = .ok s ∧ ¬g.evaluator.operations.allows op s ()

/-- What a settled request fails with under a signal that never changes: a cancellation comes before
a bad credential, and a bad credential before a denial. -/
def refusal : Bool → Except AuthError (Option Subject) → Failure
  | true, _ => .cancelled
  | false, .error a => .ofAuth a
  | false, .ok _ => .permissionDenied

theorem exists_refusal (h : Settled g signal verify c op) :
    ∃ e, (g.frontRun signal verify c op).2 = .error e ∧
      ∀ b, (∀ n, signal n = b) → e = refusal b (verify c.token) := by
  cases h₀ : signal 0 with
  | true =>
    refine ⟨.cancelled, by simp [frontRun, h₀], fun b hb => ?_⟩
    rw [← hb 0, h₀]
    rfl
  | false =>
    cases hv : verify c.token with
    | error a =>
      refine ⟨.ofAuth a, by simp [frontRun, h₀, hv], fun b hb => ?_⟩
      rw [← hb 0, h₀]
      rfl
    | ok s =>
      cases h₁ : signal 1 with
      | true =>
        -- The signal has changed, so it is none of those that never do.
        refine ⟨.cancelled, by simp [frontRun, h₀, hv, h₁], fun b hb => ?_⟩
        rw [← hb 0, h₀] at hb
        exact absurd (hb 1) (by simp [h₁])
      | false =>
        have hdenied : ¬g.evaluator.operations.allows op s () := by
          rcases h with h | h | ⟨a, ha⟩ | ⟨s', hs', hd⟩
          · simp [h₀] at h
          · simp [h₁] at h
          · simp [hv] at ha
          · obtain rfl : s = s' := by simpa [hv] using hs'
            exact hd
        refine ⟨.permissionDenied, by simp [frontRun, h₀, hv, h₁, hdenied], fun b hb => ?_⟩
        rw [← hb 0, h₀]
        rfl

theorem exists_admitted (h : ¬Settled g signal verify c op) :
    ∃ s, g.frontRun signal verify c op = (admittedRun g c op s, .ok s) := by
  simp only [Settled, not_or, not_exists, not_and, Bool.not_eq_true] at h
  obtain ⟨h₀, h₁, hv, hop⟩ := h
  cases hs : verify c.token with
  | error a => exact absurd hs (hv a)
  | ok s => exact ⟨s, by simp [frontRun, h₀, hs, h₁, hop s hs]⟩

theorem yields_front {t : Trace (gateSignature K)} {s : Option Subject} :
    Yields (g.admitting c op pure) t s ↔
      g.evaluator.operations.allows op s () ∧ t = admittedRun g c op s := by
  rw [yields_admitting]
  constructor
  · rintro ⟨s, hallows, u, rfl, hu⟩
    obtain ⟨rfl, rfl⟩ := yields_pure.mp hu
    exact ⟨hallows, List.append_nil _⟩
  · rintro ⟨hallows, rfl⟩
    exact ⟨s, hallows, [], (List.append_nil _).symm, yields_pure.mpr ⟨rfl, rfl⟩⟩

/-- Under a signal and with a verifier there is one run of the steps before the input. -/
theorem eq_frontRun {t : Trace (gateSignature K)} {y : Except Failure (Option Subject)}
    (ht : Under signal verify t) (h : Program.Ends (g.admitting c op pure).run t y) :
    (t, y) = g.frontRun signal verify c op := by
  cases y with
  | error e =>
    rcases fails_admitting.mp h with ⟨rfl | ⟨s, rfl⟩, rfl⟩ | ⟨a, rfl, rfl⟩ | ⟨s, hdenied, rfl, rfl⟩ |
      ⟨s, _, u, rfl, hu⟩
    · have h₀ : signal 0 = true := ht.first rfl
      simp [frontRun, h₀]
    · have h₀ : signal 0 = false := ht.first rfl
      have h₁ : signal 1 = true := ht.second rfl
      have hv : verify c.token = .ok s := (ht.verified _ _ (by simp [authenticatedRun])).symm
      simp [frontRun, h₀, hv, h₁]
    · have h₀ : signal 0 = false := ht.first rfl
      have hv : verify c.token = .error a := (ht.verified _ _ (by simp [rejectedRun])).symm
      simp [frontRun, h₀, hv]
    · have h₀ : signal 0 = false := ht.first rfl
      have h₁ : signal 1 = false := ht.second rfl
      have hv : verify c.token = .ok s := (ht.verified _ _ (by simp [authenticatedRun])).symm
      simp [frontRun, h₀, hv, h₁, hdenied]
    · exact absurd hu fails_pure
  | ok s =>
    obtain ⟨hallows, rfl⟩ := yields_front.mp h
    have h₀ : signal 0 = false := ht.first rfl
    have h₁ : signal 1 = false := ht.second rfl
    have hv : verify c.token = .ok s :=
      (ht.verified _ _ (by simp [admittedRun, authenticatedRun])).symm
    simp [frontRun, h₀, hv, h₁, hallows]

theorem ends_frontRun (g : Gate Op K) (signal : Nat → Bool)
    (verify : Option String → Except AuthError (Option Subject)) (c : Caller) (op : Op) :
    Program.Ends (g.admitting c op pure).run (g.frontRun signal verify c op).1
      (g.frontRun signal verify c op).2 := by
  rw [frontRun]
  split
  · exact fails_admitting.mpr (.inl ⟨.inl rfl, rfl⟩)
  split
  · rename_i a _
    exact fails_admitting.mpr (.inr (.inl ⟨a, rfl, rfl⟩))
  rename_i s _
  split
  · exact fails_admitting.mpr (.inl ⟨.inr ⟨s, rfl⟩, rfl⟩)
  split
  · rename_i hallows
    exact yields_front.mpr ⟨hallows, rfl⟩
  · rename_i hdenied
    exact fails_admitting.mpr (.inr (.inr (.inl ⟨s, hdenied, rfl, rfl⟩)))

/-- A run that looks at the signal at most twice is under it if both looks find it as it is. -/
theorem under_of_looks {t : Trace (gateSignature K)} {b₀ : Bool} (b₁ : Bool)
    (hp : polled t = [b₀] ∧ signal 0 = b₀ ∨ polled t = [b₀, b₁] ∧ signal 0 = b₀ ∧ signal 1 = b₁)
    (hv : ∀ c x, ⟨.verify c, x⟩ ∈ t → x = verify c) : Under signal verify t where
  signalled n b hb := by
    rcases hp with ⟨hp, h₀⟩ | ⟨hp, h₀, h₁⟩ <;> rw [hp] at hb <;> rcases n with _ | _ | n <;>
      simp_all
  verified := hv

/-- Only the authentication asks the verifier, so its answer is that of the whole run. -/
theorem verified_authenticatedRun {s : Option Subject} (hv : verify c.token = .ok s)
    {u : Trace (gateSignature K)} (hu : ∀ act ∈ u, ∀ d, act.question ≠ .verify d)
    (d : Option String) (x : Except AuthError (Option Subject))
    (hx : ⟨.verify d, x⟩ ∈ authenticatedRun c s ++ u) : x = verify d := by
  rcases List.mem_append.mp hx with hx | hx
  · obtain ⟨rfl, rfl⟩ : d = c.token ∧ x = Except.ok s := by simpa [authenticatedRun] using hx
    exact hv.symm
  · exact absurd rfl (hu _ hx d)

theorem under_frontRun (g : Gate Op K) (signal : Nat → Bool)
    (verify : Option String → Except AuthError (Option Subject)) (c : Caller) (op : Op) :
    Under signal verify (g.frontRun signal verify c op).1 := by
  rw [frontRun]
  cases h₀ : signal 0 with
  | true => exact under_of_looks true (.inl ⟨rfl, h₀⟩) (by simp [cancelledRun])
  | false =>
    cases hv : verify c.token with
    | error a =>
      refine under_of_looks true (.inl ⟨rfl, h₀⟩) fun d x hx => ?_
      obtain ⟨rfl, rfl⟩ : d = c.token ∧ x = Except.error a := by simpa [rejectedRun] using hx
      exact hv.symm
    | ok s =>
      cases h₁ : signal 1 with
      | true =>
        refine under_of_looks _ (.inr ⟨rfl, h₀, h₁⟩) (verified_authenticatedRun hv ?_)
        simp [cancelledRun]
      | false =>
        by_cases hop : g.evaluator.operations.allows op s ()
        · simp only [hop, if_true, Bool.false_eq_true, if_false]
          refine under_of_looks _ (.inr ⟨rfl, h₀, h₁⟩) (verified_authenticatedRun hv ?_)
          simp [operationRun, verdictRun]
        · simp only [hop, Bool.false_eq_true, if_false]
          refine under_of_looks _ (.inr ⟨rfl, h₀, h₁⟩) (verified_authenticatedRun hv ?_)
          simp [operationRun, verdictRun]

end Front

/-! ## Requests after their front -/

section Requests

variable {α β : Type}

/-- A request goes through its first steps, and what is left of it comes after them. -/
theorem carryOut_request_bind (x : Attempt (gateSignature K) α)
    (f : α → Attempt (gateSignature K) (Plan (gateSignature K) K.Entity (Except Failure β))) :
    (request (x >>= f)).carryOut = Program.bind x.run fun
      | .ok a => (request (f a)).carryOut
      | .error e => .done (.error e) := by
  rw [Request.carryOut, request, run_bind, Program.bind_assoc, Program.bind_assoc]
  refine congrArg _ (funext fun y => ?_)
  cases y with
  | ok a => exact (Program.bind_assoc ..).symm
  | error e => rfl

variable [OperationSet Op] {g : Gate Op K} {c : Caller} {op : Op} {signal : Nat → Bool}
  {verify : Option String → Except AuthError (Option Subject)}
  {rest : Option Subject →
    Attempt (gateSignature K) (Plan (gateSignature K) K.Entity (Except Failure β))}
  {t : Trace (gateSignature K)} {x : Except Failure β}

theorem admitting_eq : g.admitting c op rest = g.admitting c op pure >>= rest := by
  simp only [admitting, bind_assoc, pure_bind]

/-- A settled request has one run and one end. -/
theorem ends_of_refused {e : Failure} (hf : (g.frontRun signal verify c op).2 = .error e)
    (ht : Under signal verify t) : (request (g.admitting c op rest)).carryOut.Ends t x ↔
      t = (g.frontRun signal verify c op).1 ∧ x = .error e := by
  rw [admitting_eq, carryOut_request_bind, Program.ends_bind]
  constructor
  · rintro ⟨y, t₁, hfront, t₂, rfl, hrest⟩
    have hy : (t₁, y) = g.frontRun signal verify c op := eq_frontRun ht.of_append_left hfront
    rw [← hy] at hf ⊢
    cases hf
    obtain ⟨rfl, rfl⟩ := hrest
    exact ⟨List.append_nil _, rfl⟩
  · rintro ⟨rfl, rfl⟩
    exact ⟨_, _, ends_frontRun g signal verify c op, [], (List.append_nil _).symm,
      by rw [hf]; exact ⟨rfl, rfl⟩⟩

/-- An admitted request goes on after the one run of its front. -/
theorem ends_of_admitted {s : Option Subject}
    (hf : g.frontRun signal verify c op = (admittedRun g c op s, .ok s))
    (ht : Under signal verify t) : (request (g.admitting c op rest)).carryOut.Ends t x ↔
      ∃ u, t = admittedRun g c op s ++ u ∧ (request (rest s)).carryOut.Ends u x := by
  rw [admitting_eq, carryOut_request_bind, Program.ends_bind]
  constructor
  · rintro ⟨y, t₁, hfront, t₂, rfl, hrest⟩
    have hy : (t₁, y) = g.frontRun signal verify c op := eq_frontRun ht.of_append_left hfront
    rw [hf] at hy
    cases hy
    exact ⟨t₂, rfl, hrest⟩
  · rintro ⟨u, rfl, hu⟩
    have hfront := ends_frontRun g signal verify c op
    rw [hf] at hfront
    exact ⟨_, _, hfront, u, rfl, hu⟩

/-- What is left of a request with malformed input is to say so. -/
theorem carryOut_malformed {e : Failure}
    {f : α → Attempt (gateSignature K) (Plan (gateSignature K) K.Entity (Except Failure β))} :
    (request (given (.error e) >>= f)).carryOut = .done (.error e) := by
  rw [carryOut_request_bind]
  rfl

theorem outer_front : AsksOnly Outer (g.admitting c op pure) :=
  asksOnly_admitting (P := Outer) rfl (fun _ _ => rfl) rfl (fun _ => rfl) (fun _ => rfl)
    fun _ => asksOnly_pure

theorem staysOutside_of_begins {α : Type} {p : Program (gateSignature K) α}
    (hp : p.AsksOnly Outer) (h : p.Begins t) : StaysOutside t :=
  hp.of_begins h

/-- A run that may have been cut off stays outside, or it has left its front behind. -/
theorem begins_admitting (ht : Under signal verify t)
    (h : (request (g.admitting c op rest)).carryOut.Begins t) :
    StaysOutside t ∨ ∃ s, g.frontRun signal verify c op = (admittedRun g c op s, .ok s) ∧
      ∃ u, t = admittedRun g c op s ++ u ∧ (request (rest s)).carryOut.Begins u := by
  rw [admitting_eq, carryOut_request_bind, Program.begins_bind] at h
  rcases h with hfront | ⟨y, t₁, hfront, t₂, rfl, hrest⟩
  · exact .inl (staysOutside_of_begins outer_front hfront)
  · have hy : (t₁, y) = g.frontRun signal verify c op := eq_frontRun ht.of_append_left hfront
    cases y with
    | error e =>
      cases hrest
      rw [List.append_nil]
      exact .inl (staysOutside_of_begins outer_front hfront.begins)
    | ok s =>
      obtain ⟨-, rfl⟩ := yields_front.mp hfront
      exact .inr ⟨s, hy.symm, t₂, rfl, hrest⟩

end Requests

/-! ## Discreet pipelines -/

/-- A pipeline that keeps its input, the store and the sinks out of a refusal, for a caller under a
signal, with a verifier. Stores, sinks and checkers of targets may answer in every run as they
like. -/
structure Discreet [OperationSet Op] (g : Gate Op K) (c : Caller) (signal : Nat → Bool)
    (verify : Option String → Except AuthError (Option Subject)) (op : Op) {ι β : Type}
    (pipeline : Except Failure ι → Request (gateSignature K) K.Entity (Except Failure β)) :
    Prop where
  /-- Any two runs of a settled request are one, whatever their inputs, and fail alike. -/
  alike : Settled g signal verify c op → ∃ e,
    (∀ b, (∀ n, signal n = b) → e = refusal b (verify c.token)) ∧
    ∀ (input input' : Except Failure ι) (t t' : Trace (gateSignature K)) (x x' : Except Failure β),
      Under signal verify t → Under signal verify t' →
      (pipeline input).carryOut.Ends t x → (pipeline input').carryOut.Ends t' x' →
      t = t' ∧ x = .error e ∧ x' = .error e
  /-- A request that is not settled but malformed fails with what is wrong with its input. -/
  malformed : ¬Settled g signal verify c op → ∀ (e : Failure) (t : Trace (gateSignature K))
    (x : Except Failure β), Under signal verify t → (pipeline (.error e)).carryOut.Ends t x →
    x = .error e
  /-- Either way there is an answer. -/
  answered : ∀ input, (Settled g signal verify c op ∨ ∃ e, input = .error e) →
    ∃ t x, Under signal verify t ∧ (pipeline input).carryOut.Ends t x
  /-- Either way, and wherever the run is cut off, it stays outside. -/
  outside : ∀ input, (Settled g signal verify c op ∨ ∃ e, input = .error e) →
    ∀ t, Under signal verify t → (pipeline input).carryOut.Begins t → StaysOutside t

section Pipelines

/-- A pipeline that takes up its input right after the coarse check is discreet. -/
theorem discreet_of_front [OperationSet Op] {g : Gate Op K} {c : Caller} {signal : Nat → Bool}
    {verify : Option String → Except AuthError (Option Subject)} {op : Op} {ι β : Type}
    (rest : Option Subject → ι →
      Attempt (gateSignature K) (Plan (gateSignature K) K.Entity (Except Failure β))) :
    Discreet g c signal verify op fun input : Except Failure ι =>
      request (g.admitting c op fun s => given input >>= rest s) where
  alike h := by
    obtain ⟨e, hf, hconstant⟩ := exists_refusal h
    refine ⟨e, hconstant, fun input input' t t' x x' ht ht' hrun hrun' => ?_⟩
    obtain ⟨rfl, rfl⟩ := (ends_of_refused hf ht).mp hrun
    obtain ⟨rfl, rfl⟩ := (ends_of_refused hf ht').mp hrun'
    exact ⟨rfl, rfl, rfl⟩
  malformed h e t x ht hrun := by
    obtain ⟨s, hf⟩ := exists_admitted h
    obtain ⟨u, rfl, hu⟩ := (ends_of_admitted hf ht).mp hrun
    rw [carryOut_malformed] at hu
    exact hu.2.symm
  answered input h := by
    have hunder := under_frontRun g signal verify c op
    by_cases hs : Settled g signal verify c op
    · obtain ⟨e, hf, -⟩ := exists_refusal hs
      exact ⟨_, _, hunder, (ends_of_refused hf hunder).mpr ⟨rfl, rfl⟩⟩
    · obtain ⟨e, rfl⟩ := h.resolve_left hs
      obtain ⟨s, hf⟩ := exists_admitted hs
      rw [hf] at hunder
      refine ⟨_, .error e, hunder, (ends_of_admitted hf hunder).mpr ⟨[], ?_, ?_⟩⟩
      · exact (List.append_nil _).symm
      · rw [carryOut_malformed]
        exact ⟨rfl, rfl⟩
  outside input h t ht hrun := by
    rcases begins_admitting ht hrun with hout | ⟨s, hf, u, rfl, hu⟩
    · exact hout
    · obtain ⟨e, rfl⟩ : ∃ e, input = .error e := by
        refine h.resolve_left fun hs => ?_
        obtain ⟨e, he, -⟩ := exists_refusal hs
        rw [hf] at he
        cases he
      rw [carryOut_malformed] at hu
      obtain rfl : u = [] := hu
      have hfront := ends_frontRun g signal verify c op
      rw [hf] at hfront
      rw [List.append_nil]
      exact staysOutside_of_begins outer_front hfront.begins

variable [PipelineSet Op]

/-- **A refusal depends on the caller alone.** In each of the five pipelines, any two runs with one
verifier, one signal and the same tables end with the same failure if the request is found cancelled,
its credential does not verify or the coarse check is against its caller: with `cancelled`, with the
failure of the verifier or with a denial, in this order under a signal that never changes. If these
steps pass and the input is malformed, the request fails with what is wrong with it. In either case
there is an answer, and no run calls a checker of targets, the store or a sink. -/
theorem refusal_depends_on_caller (g : Gate Op K) (c : Caller) (signal : Nat → Bool)
    (verify : Option String → Except AuthError (Option Subject)) :
    Discreet g c signal verify PipelineSet.create (g.create c) ∧
    Discreet g c signal verify PipelineSet.detail (g.get c) ∧
    Discreet g c signal verify PipelineSet.list (g.list c) ∧
    Discreet g c signal verify PipelineSet.update (g.update c) ∧
    Discreet g c signal verify PipelineSet.delete (g.delete c) :=
  ⟨discreet_of_front _, discreet_of_front _, discreet_of_front _, discreet_of_front _,
    discreet_of_front _⟩

end Pipelines

/-- A stranger who sends a malformed update to a gate for users is denied, and hears nothing about
the input. -/
theorem refusal_depends_on_caller_stranger :
    ∃ t x, Under (fun _ => false) (fun _ => .ok none) t ∧
      (forUsers.update .anonymous (.error (.invalid "body" "expected value"))).carryOut.Ends t x ∧
      x = .error .permissionDenied ∧ StaysOutside t := by
  obtain ⟨_, _, _, hupdate, _⟩ :=
    refusal_depends_on_caller forUsers .anonymous (fun _ => false) fun _ => .ok none
  have hsettled : Settled forUsers (fun _ => false) (fun _ => .ok none) .anonymous .update :=
    .inr (.inr (.inr ⟨none, rfl, by decide⟩))
  obtain ⟨e, he, halike⟩ := hupdate.alike hsettled
  obtain ⟨t, x, ht, hrun⟩ := hupdate.answered (.error (.invalid "body" "expected value"))
    (.inl hsettled)
  obtain rfl : e = .permissionDenied := he false fun _ => rfl
  exact ⟨t, x, ht, hrun, (halike _ _ t t x x ht ht hrun hrun).2.1,
    hupdate.outside _ (.inl hsettled) t ht hrun.begins⟩

end Gate

end Gatehouse
