import Gatehouse.Gate.Call

/-!
# Runs of programs

A run is what a program has asked so far, each question with the answer it got. Nothing is assumed
about who answers: whatever answer has the right type may come. So a statement about all runs holds
for every verifier, every store, every sink and every moment at which a request is cancelled.

`Ends` speaks of runs that are over, `Begins` of runs that may have been cut off anywhere. Both are
read off a program along its structure; the facts below say how they pass through sequencing, so
that later proofs never look into it.
-/

namespace Gatehouse

/-- A question with the answer that it got. -/
structure Signature.Act (S : Signature) where
  question : S.Ask
  answer : S.Answer question

/-- Questions and their answers, in the order in which they were asked. -/
abbrev Trace (S : Signature) := List S.Act

namespace Program

variable {S T : Signature} {α β : Type}

/-- The run is over, and this is the result. -/
def Ends : Program S α → Trace S → α → Prop
  | done a, t, b => t = [] ∧ a = b
  | ask q next, t, b => ∃ x u, t = ⟨q, x⟩ :: u ∧ (next x).Ends u b

/-- The run is possible, whether or not it is over. -/
def Begins : Program S α → Trace S → Prop
  | done _, t => t = []
  | ask q next, t => t = [] ∨ ∃ x u, t = ⟨q, x⟩ :: u ∧ (next x).Begins u

@[simp] theorem ends_done {a b : α} {t : Trace S} :
    (done a).Ends t b ↔ t = [] ∧ a = b := Iff.rfl

theorem begins_nil (p : Program S α) : p.Begins [] := by
  cases p with
  | done a => rfl
  | ask q next => exact .inl rfl

theorem Ends.begins {p : Program S α} {t : Trace S} {a : α} (h : p.Ends t a) : p.Begins t := by
  induction p generalizing t with
  | done b => exact h.1
  | ask q next ih =>
    obtain ⟨x, u, rfl, hu⟩ := h
    exact .inr ⟨x, u, rfl, ih x hu⟩

/-- A run that was cut off may have been cut off earlier. -/
theorem Begins.of_append {p : Program S α} {t u : Trace S} (h : p.Begins (t ++ u)) :
    p.Begins t := by
  induction p generalizing t with
  | done a => exact (List.append_eq_nil_iff.mp h).1
  | ask q next ih =>
    cases t with
    | nil => exact begins_nil _
    | cons act t =>
      rcases h with h | ⟨x, v, h, hv⟩
      · cases h
      · obtain ⟨rfl, rfl⟩ := List.cons.inj h
        exact .inr ⟨x, t, rfl, ih x hv⟩

/-! ## Sequencing -/

/-- A run of two programs is a run of the first and then one of the second. -/
theorem ends_bind {p : Program S α} {f : α → Program S β} {t : Trace S} {b : β} :
    (p.bind f).Ends t b ↔ ∃ a t₁, p.Ends t₁ a ∧ ∃ t₂, t = t₁ ++ t₂ ∧ (f a).Ends t₂ b := by
  induction p generalizing t with
  | done a =>
    constructor
    · intro h
      exact ⟨a, [], ⟨rfl, rfl⟩, t, rfl, h⟩
    · rintro ⟨a', t₁, ⟨rfl, rfl⟩, t₂, rfl, h⟩
      exact h
  | ask q next ih =>
    constructor
    · rintro ⟨x, u, rfl, hu⟩
      obtain ⟨a, t₁, hp, t₂, rfl, hf⟩ := (ih x).mp hu
      exact ⟨a, ⟨q, x⟩ :: t₁, ⟨x, t₁, rfl, hp⟩, t₂, rfl, hf⟩
    · rintro ⟨a, t₁, ⟨x, u, rfl, hu⟩, t₂, rfl, hf⟩
      exact ⟨x, u ++ t₂, rfl, (ih x).mpr ⟨a, u, hu, t₂, rfl, hf⟩⟩

/-- A run that may be cut off is one of the first program, or the first program is over. -/
theorem begins_bind {p : Program S α} {f : α → Program S β} {t : Trace S} :
    (p.bind f).Begins t ↔
      p.Begins t ∨ ∃ a t₁, p.Ends t₁ a ∧ ∃ t₂, t = t₁ ++ t₂ ∧ (f a).Begins t₂ := by
  induction p generalizing t with
  | done a =>
    constructor
    · intro h
      exact .inr ⟨a, [], ⟨rfl, rfl⟩, t, rfl, h⟩
    · rintro (rfl | ⟨a', t₁, ⟨rfl, rfl⟩, t₂, rfl, h⟩)
      · exact begins_nil _
      · exact h
  | ask q next ih =>
    constructor
    · rintro (rfl | ⟨x, u, rfl, hu⟩)
      · exact .inl (.inl rfl)
      · rcases (ih x).mp hu with hp | ⟨a, t₁, hp, t₂, rfl, hf⟩
        · exact .inl (.inr ⟨x, u, rfl, hp⟩)
        · exact .inr ⟨a, ⟨q, x⟩ :: t₁, ⟨x, t₁, rfl, hp⟩, t₂, rfl, hf⟩
    · rintro ((rfl | ⟨x, u, rfl, hp⟩) | ⟨a, t₁, ⟨x, u, rfl, hu⟩, t₂, rfl, hf⟩)
      · exact .inl rfl
      · exact .inr ⟨x, u, rfl, (ih x).mpr (.inl hp)⟩
      · exact .inr ⟨x, u ++ t₂, rfl, (ih x).mpr (.inr ⟨a, u, hu, t₂, rfl, hf⟩)⟩

/-- A program that asks one question asks no other. -/
theorem begins_call_concat {q : S.Ask} {t : Trace S} {a : S.Act} (h : (call q).Begins (t ++ [a])) :
    t = [] ∧ a.question = q := by
  rcases h with h | ⟨x, u, h, rfl⟩
  · exact absurd h (by simp)
  · obtain ⟨rfl, ha⟩ := (List.append_eq_singleton_iff.mp h).resolve_right (by simp)
    cases ha
    exact ⟨rfl, rfl⟩

/-! ## What a program asks -/

/-- Whatever the answers are, the program asks such questions only. -/
def AsksOnly (P : S.Ask → Prop) : Program S α → Prop
  | done _ => True
  | ask q next => P q ∧ ∀ x, (next x).AsksOnly P

theorem AsksOnly.bind {P : S.Ask → Prop} {p : Program S α} {f : α → Program S β}
    (hp : p.AsksOnly P) (hf : ∀ a, (f a).AsksOnly P) : (p.bind f).AsksOnly P := by
  induction p with
  | done a => exact hf a
  | ask q next ih => exact ⟨hp.1, fun x => ih x (hp.2 x)⟩

/-- Only the results that the first program can have matter to what comes after it. -/
theorem AsksOnly.bind_of_ends {P : S.Ask → Prop} {p : Program S α} {f : α → Program S β}
    (hp : p.AsksOnly P) (hf : ∀ t a, p.Ends t a → (f a).AsksOnly P) : (p.bind f).AsksOnly P := by
  induction p with
  | done a => exact hf [] a ⟨rfl, rfl⟩
  | ask q next ih =>
    exact ⟨hp.1, fun x => ih x (hp.2 x) fun t a h => hf (⟨q, x⟩ :: t) a ⟨x, t, rfl, h⟩⟩

theorem AsksOnly.of_begins {P : S.Ask → Prop} {p : Program S α} (hp : p.AsksOnly P)
    {t : Trace S} (h : p.Begins t) : ∀ act ∈ t, P act.question := by
  induction p generalizing t with
  | done a =>
    cases h
    simp
  | ask q next ih =>
    rcases h with rfl | ⟨x, u, rfl, hu⟩
    · simp
    · intro act hact
      rcases List.mem_cons.mp hact with rfl | hact
      · exact hp.1
      · exact ih x (hp.2 x) hu act hact

/-! ## Runs with given answers -/

/-- The run in which every question gets the answer that is fixed for it, and the result. -/
def play (answer : (q : S.Ask) → S.Answer q) : Program S α → Trace S × α
  | done a => ([], a)
  | ask q next =>
    let (t, a) := (next (answer q)).play answer
    (⟨q, answer q⟩ :: t, a)

theorem ends_play (answer : (q : S.Ask) → S.Answer q) (p : Program S α) :
    p.Ends (p.play answer).1 (p.play answer).2 := by
  induction p with
  | done a => exact ⟨rfl, rfl⟩
  | ask q next ih => exact ⟨answer q, _, rfl, ih (answer q)⟩

theorem answer_of_mem_play (answer : (q : S.Ask) → S.Answer q) (p : Program S α) :
    ∀ act ∈ (p.play answer).1, act.answer = answer act.question := by
  induction p with
  | done a => simp [play]
  | ask q next ih =>
    intro act hact
    rcases List.mem_cons.mp hact with rfl | hact
    · rfl
    · exact ih (answer q) act hact

/-! ## Runs through another signature -/

/-- Each question of the first run is answered by a run of its program; strung together, these are
the second run. -/
inductive Implements (by_ : (q : S.Ask) → Program T (S.Answer q)) : Trace S → Trace T → Prop where
  | nil : Implements by_ [] []
  | cons {q : S.Ask} {x : S.Answer q} {t : Trace S} {u v : Trace T} :
    (by_ q).Ends u x → Implements by_ t v → Implements by_ (⟨q, x⟩ :: t) (u ++ v)

/-- The runs of a program whose questions are answered by programs. -/
theorem ends_refine {by_ : (q : S.Ask) → Program T (S.Answer q)} {p : Program S α} {v : Trace T}
    {a : α} : (p.refine by_).Ends v a ↔ ∃ t, p.Ends t a ∧ Implements by_ t v := by
  induction p generalizing v with
  | done b =>
    constructor
    · rintro ⟨rfl, rfl⟩
      exact ⟨[], ⟨rfl, rfl⟩, .nil⟩
    · rintro ⟨t, ⟨rfl, rfl⟩, ht⟩
      cases ht
      exact ⟨rfl, rfl⟩
  | ask q next ih =>
    rw [refine, ends_bind]
    constructor
    · rintro ⟨x, u, hu, w, rfl, hw⟩
      obtain ⟨t, ht, hi⟩ := (ih x).mp hw
      exact ⟨⟨q, x⟩ :: t, ⟨x, t, rfl, ht⟩, .cons hu hi⟩
    · rintro ⟨t, ⟨x, t', rfl, ht⟩, hi⟩
      cases hi with
      | cons hu hw => exact ⟨x, _, hu, _, rfl, (ih x).mpr ⟨t', ht, hw⟩⟩

/-- Each answer of the first run is what a part of the second run ends with. -/
theorem Implements.exists_part {by_ : (q : S.Ask) → Program T (S.Answer q)} {t : Trace S}
    {v : Trace T} (h : Implements by_ t v) {act : S.Act} (hact : act ∈ t) :
    ∃ u, (by_ act.question).Ends u act.answer ∧ ∀ b ∈ u, b ∈ v := by
  induction h with
  | nil => exact absurd hact List.not_mem_nil
  | cons hu _ ih =>
    rcases List.mem_cons.mp hact with rfl | hact
    · exact ⟨_, hu, fun b hb => List.mem_append_left _ hb⟩
    · obtain ⟨w, hw, hsub⟩ := ih hact
      exact ⟨w, hw, fun b hb => List.mem_append_right _ (hsub b hb)⟩

/-- Conversely, each question of the second run belongs to such a part. -/
theorem Implements.exists_whole {by_ : (q : S.Ask) → Program T (S.Answer q)} {t : Trace S}
    {v : Trace T} (h : Implements by_ t v) {b : T.Act} (hb : b ∈ v) :
    ∃ act ∈ t, ∃ u, (by_ act.question).Ends u act.answer ∧ b ∈ u := by
  induction h with
  | nil => exact absurd hb List.not_mem_nil
  | cons hu _ ih =>
    rcases List.mem_append.mp hb with hb | hb
    · exact ⟨_, List.mem_cons_self, _, hu, hb⟩
    · obtain ⟨act, hact, part⟩ := ih hb
      exact ⟨act, List.mem_cons_of_mem _ hact, part⟩

/-- Any moment of the first run is one of the second run. -/
theorem Implements.split {by_ : (q : S.Ask) → Program T (S.Answer q)} {t u : Trace S} {v : Trace T}
    (h : Implements by_ (t ++ u) v) :
    ∃ v₁ v₂, v = v₁ ++ v₂ ∧ Implements by_ t v₁ ∧ Implements by_ u v₂ := by
  induction t generalizing v with
  | nil => exact ⟨[], v, rfl, .nil, h⟩
  | cons act t ih =>
    cases h with
    | cons hu hrest =>
      obtain ⟨v₁, v₂, rfl, ht, hu'⟩ := ih hrest
      exact ⟨_, v₂, (List.append_assoc ..).symm, .cons hu ht, hu'⟩

/-- Whatever the second run asks, it asks on behalf of a question of the first run. -/
theorem exists_asked {by_ : (q : S.Ask) → Program T (S.Answer q)} {p : Program S α}
    {v w : Trace T} {b : T.Act} (h : (p.refine by_).Begins (v ++ b :: w)) :
    ∃ t q v₁ v₂, v = v₁ ++ v₂ ∧ Implements by_ t v₁ ∧ (∀ x, p.Begins (t ++ [⟨q, x⟩])) ∧
      (by_ q).Begins (v₂ ++ [b]) := by
  induction p generalizing v with
  | done a => exact absurd (List.append_eq_nil_iff.mp h).2 (List.cons_ne_nil _ _)
  | ask q next ih =>
    have hfirst : ∀ u, (by_ q).Begins (v ++ b :: u) → ∃ t q' v₁ v₂, v = v₁ ++ v₂ ∧
        Implements by_ t v₁ ∧ (∀ x, (ask q next).Begins (t ++ [⟨q', x⟩])) ∧
        (by_ q').Begins (v₂ ++ [b]) := by
      intro u hu
      refine ⟨[], q, [], v, rfl, .nil, fun x => .inr ⟨x, [], rfl, begins_nil _⟩, ?_⟩
      rw [List.append_cons] at hu
      exact hu.of_append
    rcases begins_bind.mp h with hq | ⟨x, u₁, hq, u₂, heq, hrest⟩
    · exact hfirst w hq
    -- The question in sight belongs to the first part of the run, or to what comes after it.
    rcases List.append_eq_append_iff.mp heq with ⟨u, rfl, hu⟩ | ⟨u, rfl, rfl⟩
    · cases u with
      | nil =>
        rw [List.nil_append] at hu
        obtain ⟨t, q', v₁, v₂, hv, himp, hbegins, hb⟩ := ih x (v := []) (hu ▸ hrest)
        obtain ⟨rfl, rfl⟩ := List.append_eq_nil_iff.mp hv.symm
        refine ⟨⟨q, x⟩ :: t, q', v ++ [], [], ?_, .cons (by simpa using hq) himp, fun y => ?_, hb⟩
        · simp
        · exact .inr ⟨x, _, rfl, hbegins y⟩
      | cons b' u =>
        obtain ⟨rfl, -⟩ := List.cons.inj hu
        exact hfirst u hq.begins
    · obtain ⟨t, q', v₁, v₂, rfl, himp, hbegins, hb⟩ := ih x hrest
      refine ⟨⟨q, x⟩ :: t, q', u₁ ++ v₁, v₂, (List.append_assoc ..).symm, .cons hq himp, fun y => ?_, hb⟩
      exact .inr ⟨x, _, rfl, hbegins y⟩

/-- The second run asks only what the programs ask that answer the questions of the first. -/
theorem Implements.asks {P : T.Ask → Prop} {by_ : (q : S.Ask) → Program T (S.Answer q)}
    {t : Trace S} {v : Trace T} (h : Implements by_ t v)
    (hP : ∀ act ∈ t, (by_ act.question).AsksOnly P) : ∀ act ∈ v, P act.question := by
  induction h with
  | nil => simp
  | cons hu _ ih =>
    intro act hact
    rcases List.mem_append.mp hact with hact | hact
    · exact (hP _ List.mem_cons_self).of_begins hu.begins act hact
    · exact ih (fun b hb => hP b (List.mem_cons_of_mem _ hb)) act hact

/-- A program whose questions are answered by programs asks what these ask. -/
theorem AsksOnly.refine {P : S.Ask → Prop} {Q : T.Ask → Prop} {p : Program S α}
    (hp : p.AsksOnly P) {by_ : (q : S.Ask) → Program T (S.Answer q)}
    (hby : ∀ q, P q → (by_ q).AsksOnly Q) : (p.refine by_).AsksOnly Q := by
  induction p with
  | done a => trivial
  | ask q next ih => exact (hby q hp.1).bind fun x => ih x (hp.2 x)

theorem refine_bind (by_ : (q : S.Ask) → Program T (S.Answer q)) (p : Program S α)
    (f : α → Program S β) :
    (p.bind f).refine by_ = (p.refine by_).bind fun a => (f a).refine by_ := by
  induction p with
  | done a => rfl
  | ask q next ih => simp only [ask_bind, refine, ih, bind_assoc]

end Program

/-! ## Attempts -/

namespace Attempt

variable {S : Signature} {α β : Type}

/-- The run is over, and the attempt has succeeded. -/
def Yields (x : Attempt S α) (t : Trace S) (a : α) : Prop := Program.Ends x.run t (.ok a)

/-- The run is over, and the attempt has failed. -/
def Fails (x : Attempt S α) (t : Trace S) (e : Failure) : Prop := Program.Ends x.run t (.error e)

theorem run_bind (x : Attempt S α) (f : α → Attempt S β) :
    (x >>= f).run = Program.bind x.run fun
      | .ok a => (f a).run
      | .error e => .done (.error e) := by
  refine congrArg (Program.bind x.run) (funext fun y => ?_)
  cases y <;> rfl

@[simp] theorem yields_pure {a b : α} {t : Trace S} :
    Yields (pure a : Attempt S α) t b ↔ t = [] ∧ a = b := by
  show Program.Ends (.done (Except.ok a)) t (Except.ok b) ↔ _
  simp

@[simp] theorem fails_pure {a : α} {t : Trace S} {e : Failure} :
    ¬Fails (pure a : Attempt S α) t e := by
  rintro ⟨-, h⟩
  cases h

@[simp] theorem yields_throw {e : Failure} {t : Trace S} {a : α} :
    ¬Yields (throw e : Attempt S α) t a := by
  rintro ⟨-, h⟩
  cases h

@[simp] theorem fails_throw {e e' : Failure} {t : Trace S} :
    Fails (throw e : Attempt S α) t e' ↔ t = [] ∧ e = e' := by
  show Program.Ends (.done (Except.error e)) t (Except.error e') ↔ _
  simp

/-- Two attempts in a row succeed if both do. -/
theorem yields_bind {x : Attempt S α} {f : α → Attempt S β} {t : Trace S} {b : β} :
    Yields (x >>= f) t b ↔ ∃ a t₁, Yields x t₁ a ∧ ∃ t₂, t = t₁ ++ t₂ ∧ Yields (f a) t₂ b := by
  rw [Yields, run_bind, Program.ends_bind]
  constructor
  · rintro ⟨y, t₁, hx, t₂, rfl, hf⟩
    cases y with
    | ok a => exact ⟨a, t₁, hx, t₂, rfl, hf⟩
    | error e => cases hf.2
  · rintro ⟨a, t₁, hx, t₂, rfl, hf⟩
    exact ⟨.ok a, t₁, hx, t₂, rfl, hf⟩

/-- Two attempts in a row fail if the first does, or the first succeeds and the second fails. -/
theorem fails_bind {x : Attempt S α} {f : α → Attempt S β} {t : Trace S} {e : Failure} :
    Fails (x >>= f) t e ↔
      Fails x t e ∨ ∃ a t₁, Yields x t₁ a ∧ ∃ t₂, t = t₁ ++ t₂ ∧ Fails (f a) t₂ e := by
  rw [Fails, run_bind, Program.ends_bind]
  constructor
  · rintro ⟨y, t₁, hx, t₂, rfl, hf⟩
    cases y with
    | ok a => exact .inr ⟨a, t₁, hx, t₂, rfl, hf⟩
    | error e' =>
      obtain ⟨rfl, he⟩ := hf
      cases he
      exact .inl (by simpa [Fails] using hx)
  · rintro (hx | ⟨a, t₁, hx, t₂, rfl, hf⟩)
    · exact ⟨.error e, t, hx, [], by simp, rfl, rfl⟩
    · exact ⟨.ok a, t₁, hx, t₂, rfl, hf⟩

/-- Two attempts in a row are under way if the first is, or has succeeded and the second is. -/
theorem begins_bind {x : Attempt S α} {f : α → Attempt S β} {t : Trace S} :
    Program.Begins (x >>= f).run t ↔ Program.Begins x.run t ∨
      ∃ a t₁, Yields x t₁ a ∧ ∃ t₂, t = t₁ ++ t₂ ∧ Program.Begins (f a).run t₂ := by
  rw [run_bind, Program.begins_bind]
  constructor
  · rintro (h | ⟨y, t₁, hx, t₂, rfl, hf⟩)
    · exact .inl h
    · cases y with
      | ok a => exact .inr ⟨a, t₁, hx, t₂, rfl, hf⟩
      | error e =>
        cases hf
        rw [List.append_nil]
        exact .inl hx.begins
  · rintro (h | ⟨a, t₁, hx, t₂, rfl, hf⟩)
    · exact .inl h
    · exact .inr ⟨.ok a, t₁, hx, t₂, rfl, hf⟩

/-- The last question so far of two attempts in a row belongs to the first, or the first has
succeeded and it belongs to the second. -/
theorem begins_bind_concat {x : Attempt S α} {f : α → Attempt S β} {t : Trace S} {act : S.Act}
    (h : Program.Begins (x >>= f).run (t ++ [act])) : Program.Begins x.run (t ++ [act]) ∨
      ∃ a t₁ t₂, Yields x t₁ a ∧ t = t₁ ++ t₂ ∧ Program.Begins (f a).run (t₂ ++ [act]) := by
  rcases begins_bind.mp h with h | ⟨a, t₁, hx, t₂, heq, hf⟩
  · exact .inl h
  · rcases List.eq_nil_or_concat t₂ with rfl | ⟨t₂, b, rfl⟩
    · rw [List.append_nil] at heq
      rw [heq]
      exact .inl hx.begins
    · rw [List.concat_eq_append, ← List.append_assoc] at heq
      obtain ⟨rfl, hb⟩ := List.append_inj' heq rfl
      cases hb
      rw [List.concat_eq_append] at hf
      exact .inr ⟨a, t₁, t₂, hx, rfl, hf⟩

/-- However the attempt fails, it is with such a failure. -/
def FailsOnly (P : Failure → Prop) (x : Attempt S α) : Prop := ∀ t e, Fails x t e → P e

theorem FailsOnly.bind {P : Failure → Prop} {x : Attempt S α} {f : α → Attempt S β}
    (hx : FailsOnly P x) (hf : ∀ a, FailsOnly P (f a)) : FailsOnly P (x >>= f) := by
  intro t e h
  rcases fails_bind.mp h with h | ⟨a, _, _, t₂, _, h⟩
  · exact hx t e h
  · exact hf a t₂ e h

theorem failsOnly_pure {P : Failure → Prop} {a : α} : FailsOnly P (pure a : Attempt S α) :=
  fun _ _ h => absurd h fails_pure

/-- Whatever the answers are, the attempt asks such questions only. -/
def AsksOnly (P : S.Ask → Prop) (x : Attempt S α) : Prop := Program.AsksOnly P x.run

@[simp] theorem asksOnly_pure {P : S.Ask → Prop} {a : α} :
    AsksOnly P (pure a : Attempt S α) := trivial

@[simp] theorem asksOnly_throw {P : S.Ask → Prop} {e : Failure} :
    AsksOnly P (throw e : Attempt S α) := trivial

theorem AsksOnly.bind {P : S.Ask → Prop} {x : Attempt S α} {f : α → Attempt S β}
    (hx : AsksOnly P x) (hf : ∀ a, AsksOnly P (f a)) : AsksOnly P (x >>= f) := by
  rw [AsksOnly, run_bind]
  refine Program.AsksOnly.bind hx fun y => ?_
  cases y with
  | ok a => exact hf a
  | error e => trivial

end Attempt

/-! ## Whole requests -/

/-- A plan carried out to its end. -/
def Plan.carryOut {S : Signature} {E β : Type} : Plan S E β → Program S β
  | .answer b => .done b
  | .task work finish => Program.bind work.run fun x => .done (finish x)

/-- A request run to its end, task included. A run that is cut off may be one whose caller left, or
one whose task broke down. -/
def Request.carryOut {S : Signature} {E β : Type} (r : Request S E β) : Program S β :=
  Program.bind r Plan.carryOut

variable {S T : Signature} {E β γ : Type}

theorem Plan.carryOut_map (f : β → γ) (plan : Plan S E β) :
    (plan.map f).carryOut = Program.bind plan.carryOut fun b => .done (f b) := by
  cases plan with
  | answer b => rfl
  | task work finish =>
    show _ = Program.bind (Program.bind _ _) _
    rw [Program.bind_assoc]
    rfl

theorem Request.carryOut_map (f : β → γ) (r : Request S E β) :
    (r.map f).carryOut = Program.bind r.carryOut fun b => .done (f b) := by
  rw [carryOut, map, carryOut, Program.bind_assoc, Program.bind_assoc]
  exact congrArg _ (funext fun plan => plan.carryOut_map f)

theorem Request.map_id (r : Request S E β) : r.map id = r := by
  have hplan : ∀ plan : Plan S E β, plan.map id = plan := fun plan => by cases plan <;> rfl
  simp only [map, hplan, Program.bind_done]

theorem Request.map_map {δ : Type} (f : β → γ) (h : γ → δ) (r : Request S E β) :
    (r.map f).map h = r.map (h ∘ f) := by
  simp only [map, Program.bind_assoc, Program.done_bind]
  refine congrArg _ (funext fun plan => ?_)
  cases plan <;> rfl

/-- What the caller of a request gets in the end may be changed after the run. -/
theorem Request.ends_carryOut_map {f : β → γ} {r : Request S E β} {t : Trace S} {c : γ} :
    (r.map f).carryOut.Ends t c ↔ ∃ b, r.carryOut.Ends t b ∧ f b = c := by
  rw [carryOut_map, Program.ends_bind]
  constructor
  · rintro ⟨b, t₁, h, t₂, rfl, rfl, rfl⟩
    rw [List.append_nil]
    exact ⟨b, h, rfl⟩
  · rintro ⟨b, h, rfl⟩
    exact ⟨b, t, h, [], (List.append_nil t).symm, rfl, rfl⟩

theorem Request.begins_carryOut_map {f : β → γ} {r : Request S E β} {t : Trace S} :
    (r.map f).carryOut.Begins t ↔ r.carryOut.Begins t := by
  rw [carryOut_map, Program.begins_bind]
  constructor
  · rintro (h | ⟨b, t₁, h, t₂, rfl, rfl⟩)
    · exact h
    · rw [List.append_nil]
      exact h.begins
  · exact .inl

theorem Request.asksOnly_map {P : S.Ask → Prop} {r : Request S E β}
    (hr : Program.AsksOnly P r) (f : β → γ) : Program.AsksOnly P (r.map f) :=
  Program.AsksOnly.bind hr fun _ => trivial

theorem Request.asksOnly_refine {P : S.Ask → Prop} {Q : T.Ask → Prop} {r : Request S E β}
    (hr : Program.AsksOnly P r) {by_ : (q : S.Ask) → Program T (S.Answer q)}
    (hby : ∀ q, P q → (by_ q).AsksOnly Q) : Program.AsksOnly Q (r.refine by_) :=
  Program.AsksOnly.bind (Program.AsksOnly.refine hr hby) fun _ => trivial

theorem Plan.carryOut_refine (by_ : (q : S.Ask) → Program T (S.Answer q)) (plan : Plan S E β) :
    (plan.refine by_).carryOut = plan.carryOut.refine by_ := by
  cases plan with
  | answer b => rfl
  | task work finish =>
    exact (Program.refine_bind by_ work.run fun x => .done (finish x)).symm

theorem Request.carryOut_refine (by_ : (q : S.Ask) → Program T (S.Answer q))
    (r : Request S E β) : (r.refine by_).carryOut = r.carryOut.refine by_ := by
  rw [carryOut, refine, carryOut, Program.refine_bind, Program.bind_assoc]
  exact congrArg _ (funext fun plan => plan.carryOut_refine by_)

/-- A request that is under way is still being planned, or carries its plan out. -/
theorem Request.begins_carryOut {r : Request S E β} {t : Trace S} :
    r.carryOut.Begins t ↔ Program.Begins r t ∨
      ∃ plan t₁, Program.Ends r t₁ plan ∧ ∃ t₂, t = t₁ ++ t₂ ∧ plan.carryOut.Begins t₂ :=
  Program.begins_bind

theorem Plan.begins_task {work : Attempt S E}
    {finish : Except Failure E → β} {t : Trace S} :
    (Plan.task work finish).carryOut.Begins t ↔ Program.Begins work.run t := by
  rw [carryOut, Program.begins_bind]
  constructor
  · rintro (h | ⟨x, t₁, hx, t₂, rfl, rfl⟩)
    · exact h
    · rw [List.append_nil]
      exact hx.begins
  · exact .inl

end Gatehouse
