import Gatehouse.Proofs.Run

/-!
# Surroundings with a state

Who answers the questions of a run may have a state of its own: a store, a registry, a signal that is
looked at again and again. Such surroundings are given by a relation between a state, a question with
its answer, and the state after it; what they leave open may be answered in any way. `Leads` follows
a whole list of labels from state to state.

Three facts carry over to whole runs. Where each question has one answer there is one run
(`eq_of_leads`), where a function answers there is the run that it gives (`leads_walk`), and a run
whose questions are answered by programs leads where the runs of these programs do
(`leads_of_implements`).
-/

namespace Gatehouse

/-- Label by label from one state to another. -/
inductive Leads {σ Λ : Type} (step : σ → Λ → σ → Prop) : σ → List Λ → σ → Prop where
  | nil (s : σ) : Leads step s [] s
  | cons {s s' s'' : σ} {a : Λ} {as : List Λ} :
    step s a s' → Leads step s' as s'' → Leads step s (a :: as) s''

section Labels

variable {σ Λ : Type} {step step' : σ → Λ → σ → Prop} {s s' s'' : σ} {a : Λ} {as bs : List Λ}

@[simp] theorem leads_nil : Leads step s [] s' ↔ s' = s := by
  constructor
  · intro h
    cases h
    rfl
  · intro h
    subst h
    exact .nil s'

theorem leads_cons : Leads step s (a :: as) s'' ↔ ∃ s', step s a s' ∧ Leads step s' as s'' := by
  constructor
  · intro h
    cases h with
    | cons hstep hrest => exact ⟨_, hstep, hrest⟩
  · intro ⟨s', hstep, hrest⟩
    exact .cons hstep hrest

theorem leads_append : Leads step s (as ++ bs) s'' ↔
    ∃ s', Leads step s as s' ∧ Leads step s' bs s'' := by
  induction as generalizing s with
  | nil => simp
  | cons a as ih =>
    simp only [List.cons_append, leads_cons, ih]
    constructor
    · intro ⟨s₁, hstep, s', has, hbs⟩
      exact ⟨s', ⟨s₁, hstep, has⟩, hbs⟩
    · intro ⟨s', ⟨s₁, hstep, has⟩, hbs⟩
      exact ⟨s₁, hstep, s', has, hbs⟩

theorem Leads.mono (h : Leads step s as s') (hstep : ∀ s a s', step s a s' → step' s a s') :
    Leads step' s as s' := by
  induction h with
  | nil s => exact .nil s
  | cons ha _ ih => exact .cons (hstep _ _ _ ha) ih

/-- Each label was one step. -/
theorem Leads.exists_step (h : Leads step s as s') (ha : a ∈ as) : ∃ s₁ s₂, step s₁ a s₂ := by
  obtain ⟨bs, cs, rfl⟩ := List.append_of_mem ha
  obtain ⟨s₁, -, hrest⟩ := leads_append.mp h
  obtain ⟨s₂, hstep, -⟩ := leads_cons.mp hrest
  exact ⟨s₁, s₂, hstep⟩

/-- What every step keeps is kept from the first state to the last. -/
theorem Leads.keeps {I : σ → Prop} (h : Leads step s as s')
    (hstep : ∀ s a s', step s a s' → I s → I s') (hs : I s) : I s' := by
  induction h with
  | nil => exact hs
  | cons h _ ih => exact ih (hstep _ _ _ h hs)

/-- Labels that leave every state as it is leave it as it is one after the other, and each of them
meets the state in which the first one was met. -/
theorem Leads.still (h : Leads step s as s') (hstill : ∀ a ∈ as, ∀ s s', step s a s' → s' = s) :
    s' = s ∧ ∀ a ∈ as, step s a s := by
  induction h with
  | nil => simp
  | @cons s s₁ s'' a as hstep _ ih =>
    obtain rfl := hstill a List.mem_cons_self s s₁ hstep
    obtain ⟨heq, has⟩ := ih fun b hb => hstill b (List.mem_cons_of_mem a hb)
    refine ⟨heq, fun b hb => ?_⟩
    rcases List.mem_cons.mp hb with rfl | hb
    · exact hstep
    · exact has b hb

end Labels

namespace Program

variable {S T : Signature} {σ α β : Type}

/-- Where each question that a program asks has one answer and leads to one state, the program has
one run. -/
theorem eq_of_leads {P : S.Ask → Prop} {step : σ → S.Act → σ → Prop}
    (hstep : ∀ s q x y s₁ s₂, P q → step s ⟨q, x⟩ s₁ → step s ⟨q, y⟩ s₂ → x = y ∧ s₁ = s₂)
    {p : Program S α} (hp : p.AsksOnly P) {s s₁ s₂ : σ} {t₁ t₂ : Trace S} {a₁ a₂ : α}
    (h₁ : p.Ends t₁ a₁) (hs₁ : Leads step s t₁ s₁) (h₂ : p.Ends t₂ a₂) (hs₂ : Leads step s t₂ s₂) :
    t₁ = t₂ ∧ a₁ = a₂ ∧ s₁ = s₂ := by
  induction p generalizing s t₁ t₂ with
  | done a =>
    obtain ⟨rfl, rfl⟩ := h₁
    obtain ⟨rfl, rfl⟩ := h₂
    rw [leads_nil.mp hs₁, leads_nil.mp hs₂]
    exact ⟨rfl, rfl, rfl⟩
  | ask q next ih =>
    obtain ⟨x, u₁, rfl, hu₁⟩ := h₁
    obtain ⟨y, u₂, rfl, hu₂⟩ := h₂
    obtain ⟨r₁, hx, hr₁⟩ := leads_cons.mp hs₁
    obtain ⟨r₂, hy, hr₂⟩ := leads_cons.mp hs₂
    obtain ⟨rfl, rfl⟩ := hstep s q x y r₁ r₂ hp.1 hx hy
    obtain ⟨rfl, ha, hs⟩ := ih x (hp.2 x) hu₁ hr₁ hu₂ hr₂
    exact ⟨rfl, ha, hs⟩

/-- The run of a program whose questions are answered, and whose surroundings change, as a function
says, with what the program ends with and the state after it. -/
def walk (answer : σ → (q : S.Ask) → S.Answer q × σ) : σ → Program S α → Trace S × α × σ
  | s, done a => ([], a, s)
  | s, ask q next =>
    let (t, a, s') := (next (answer s q).1).walk answer (answer s q).2
    (⟨q, (answer s q).1⟩ :: t, a, s')

theorem ends_walk (answer : σ → (q : S.Ask) → S.Answer q × σ) (s : σ) (p : Program S α) :
    p.Ends (p.walk answer s).1 (p.walk answer s).2.1 := by
  induction p generalizing s with
  | done a => exact ⟨rfl, rfl⟩
  | ask q next ih => exact ⟨(answer s q).1, _, rfl, ih _ _⟩

theorem leads_walk (answer : σ → (q : S.Ask) → S.Answer q × σ) (s : σ) (p : Program S α) :
    Leads (fun s a s' => answer s a.question = (a.answer, s')) s (p.walk answer s).1
      (p.walk answer s).2.2 := by
  induction p generalizing s with
  | done a => exact .nil s
  | ask q next ih => exact .cons rfl (ih _ _)

/-- One program after another: the second goes on in the state that the first one leaves. -/
theorem walk_bind (answer : σ → (q : S.Ask) → S.Answer q × σ) (s : σ) (p : Program S α)
    (f : α → Program S β) : ((p.bind f).walk answer s).2 =
      ((f (p.walk answer s).2.1).walk answer (p.walk answer s).2.2).2 := by
  induction p generalizing s with
  | done a => rfl
  | ask q next ih => exact ih _ _

/-- Where programs answer the questions of a program, their walks are its answers. -/
theorem walk_refine (answer : σ → (q : T.Ask) → T.Answer q × σ) (s : σ)
    (by_ : (q : S.Ask) → Program T (S.Answer q)) (p : Program S α) :
    ((p.refine by_).walk answer s).2 = (p.walk (fun s q => ((by_ q).walk answer s).2) s).2 := by
  induction p generalizing s with
  | done a => rfl
  | ask q next ih =>
    rw [refine, walk_bind]
    exact ih _ _

/-- A run whose questions are answered by programs leads where their runs, which are parts of the
second run, lead. -/
theorem leads_of_implements {by_ : (q : S.Ask) → Program T (S.Answer q)}
    {step : σ → T.Act → σ → Prop} {t : Trace S} {v : Trace T} {s s' : σ}
    (h : Implements by_ t v) (hs : Leads step s v s') :
    Leads (fun s a s' => ∃ u, (by_ a.question).Ends u a.answer ∧ u ⊆ v ∧ Leads step s u s')
      s t s' := by
  -- The parts are compared with the whole second run, which is longer than what is left of it.
  suffices ∀ w, v ⊆ w →
      Leads (fun s a s' => ∃ u, (by_ a.question).Ends u a.answer ∧ u ⊆ w ∧ Leads step s u s')
        s t s' from this v (List.Subset.refl v)
  intro w hw
  induction h generalizing s with
  | nil =>
    rw [leads_nil.mp hs]
    exact .nil s
  | @cons q x t u v hu _ ih =>
    obtain ⟨s₁, hs₁, hrest⟩ := leads_append.mp hs
    have huw : u ⊆ w := fun b hb => hw (List.mem_append_left v hb)
    have hvw : v ⊆ w := fun b hb => hw (List.mem_append_right u hb)
    exact .cons ⟨u, hu, huw, hs₁⟩ (ih hrest hvw)

end Program

end Gatehouse
