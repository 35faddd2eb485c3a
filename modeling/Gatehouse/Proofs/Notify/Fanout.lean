import Gatehouse.Notify.Sink
import Gatehouse.Proofs.Run
import Mathlib.Data.List.Forall2
import Mathlib.Data.List.Flatten

/-!
# Fan-outs reach every sink

A sink is a tree of fan-outs over single sinks. Sending an event calls each single sink once with
this event, from the left to the right, whatever the earlier ones have answered, and fails exactly
if one of them has. A fan-out that fails says what the failures of its children say, so what a
single sink has to complain of is read in the failure at the root.

The vocabulary is `leaves`, the single sinks in order, `dispatch`, the sending of an event as a
program that asks the single sinks, whose answers may be any, and `Joined`, what a fan-out makes of
the outcomes of its children.
-/

namespace Gatehouse

/-- Whatever is on the left of two related lists is related to something on the right. -/
theorem exists_of_forall₂ {α β : Type} {R : α → β → Prop} {as : List α} {bs : List β}
    (h : List.Forall₂ R as bs) {a : α} (ha : a ∈ as) : ∃ b ∈ bs, R a b := by
  induction h with
  | nil => cases ha
  | cons hr _ ih =>
    rcases List.mem_cons.mp ha with rfl | ha
    · exact ⟨_, List.mem_cons_self, hr⟩
    · obtain ⟨b, hb, hab⟩ := ih ha
      exact ⟨b, List.mem_cons_of_mem _ hb, hab⟩

/-! ## Programs over any monad -/

namespace Program

variable {S : Signature} {α β : Type} {m : Type → Type} [Monad m] [LawfulMonad m]

theorem run_program_bind (answer : (q : S.Ask) → m (S.Answer q)) (p : Program S α)
    (f : α → Program S β) :
    (p.bind f).run answer = p.run answer >>= fun a => (f a).run answer := by
  induction p with
  | done a => simp [run]
  | ask q next ih => simp [run, ih]

end Program

theorem NotifyError.message_delivery (reason : String) :
    (NotifyError.delivery reason).message = "failed to deliver event: " ++ reason := rfl

/-- A text among others is a part of them joined. -/
theorem toList_infix_intercalate (separator : String) {text : String} {texts : List String}
    (h : text ∈ texts) : text.toList <:+: (separator.intercalate texts).toList := by
  rw [String.toList_intercalate]
  induction texts with
  | nil => cases h
  | cons other texts ih =>
    cases texts with
    | nil =>
      obtain rfl := List.mem_singleton.mp h
      simp
    | cons next texts =>
      rw [List.map_cons, List.map_cons, List.intercalate_cons_cons]
      rcases List.mem_cons.mp h with rfl | h
      · rw [List.append_assoc]
        exact (List.prefix_append _ _).isInfix
      · exact (ih h).trans (List.suffix_append _ _).isInfix

namespace Sink

variable {L E : Type}

/-! ## The single sinks of a tree -/

mutual

/-- The single sinks, from the left to the right. -/
def leaves : Sink L → List L
  | single l => [l]
  | fanout sinks => leavesOf sinks

/-- The single sinks of several trees. -/
def leavesOf : List (Sink L) → List L
  | [] => []
  | s :: ss => leaves s ++ leavesOf ss

end

mutual

/-- What holds of single sinks, and of a fan-out if it holds of its children, holds of all sinks. -/
theorem tree_induction {P : Sink L → Prop} (onSingle : ∀ l, P (single l))
    (onFanout : ∀ ss, (∀ s ∈ ss, P s) → P (fanout ss)) : ∀ s, P s
  | single l => onSingle l
  | fanout ss => onFanout ss (trees_induction onSingle onFanout ss)

theorem trees_induction {P : Sink L → Prop} (onSingle : ∀ l, P (single l))
    (onFanout : ∀ ss, (∀ s ∈ ss, P s) → P (fanout ss)) : ∀ ss : List (Sink L), ∀ s ∈ ss, P s
  | [] => nofun
  | s :: ss => List.forall_mem_cons.mpr
      ⟨tree_induction onSingle onFanout s, trees_induction onSingle onFanout ss⟩

end

/-! ## Sending as a program -/

/-- The calls of single sinks, each with the event that is sent to it. -/
@[reducible] def callSignature (L E : Type) : Signature := ⟨L × Event E, fun _ => Delivery⟩

/-- The program that asks a single sink to deliver an event. -/
def deliver (e : Event E) (l : L) : Program (callSignature L E) Delivery :=
  Program.call (S := callSignature L E) (l, e)

/-- The single sinks of a monad, asked to deliver. -/
def answering {m : Type → Type} (serve : L → Event E → m Delivery)
    (q : (callSignature L E).Ask) : m ((callSignature L E).Answer q) := serve q.1 q.2

/-- The sending of an event, as a program that asks the single sinks. -/
def dispatch (e : Event E) (s : Sink L) : Program (callSignature L E) Delivery := s.send (deliver e)

section Run

variable {m : Type → Type} [Monad m] [LawfulMonad m] (serve : L → Event E → m Delivery)
  (e : Event E)

theorem failuresOf_eq_run {ss : List (Sink L)}
    (h : ∀ s ∈ ss, s.send (serve · e) = (s.dispatch e).run (answering serve)) :
    failuresOf (serve · e) ss = (failuresOf (deliver e) ss).run (answering serve) := by
  induction ss with
  | nil => rfl
  | cons s ss ih =>
    rw [List.forall_mem_cons] at h
    simp only [failuresOf, Program.bind_eq, Program.run_program_bind, h.1, ih h.2]
    refine bind_congr fun o => bind_congr fun fs => ?_
    cases o <;> rfl

/-- Sending over any monad is running the program with the single sinks that are there. -/
theorem send_eq_run (s : Sink L) :
    s.send (serve · e) = (s.dispatch e).run (answering serve) := by
  induction s using tree_induction with
  | onSingle l =>
    show serve l e = serve l e >>= pure
    rw [bind_pure]
  | onFanout ss ih =>
    simp only [dispatch, send, Program.bind_eq, Program.run_program_bind]
    rw [failuresOf_eq_run serve e ih]
    rfl

end Run

/-- What a failure says, if it is one. -/
def complaint? : Delivery → Option String
  | .ok () => none
  | .error f => some f.message

/-- The outcome of a fan-out, given those of its children: fine if all are, and else a failure to
deliver that says what each of the failures says, in their order. -/
structure Joined (outcomes : List Delivery) (x : Delivery) : Prop where
  fine : (∀ o ∈ outcomes, o = .ok ()) → x = .ok ()
  failed : ∀ o ∈ outcomes, o ≠ .ok () →
    x = .error (.delivery ("; ".intercalate (outcomes.filterMap complaint?)))

section Outcomes

variable {outcomes : List Delivery} {x : Delivery}

theorem Joined.eq_ok_iff (h : Joined outcomes x) : x = .ok () ↔ ∀ o ∈ outcomes, o = .ok () := by
  constructor
  · intro hx o ho
    by_contra hfailed
    rw [h.failed o ho hfailed] at hx
    cases hx
  · exact h.fine

/-- What a failure of a child says is read in that of the fan-out. -/
theorem Joined.exists_error {f : NotifyError} (h : Joined outcomes x)
    (hf : (.error f : Delivery) ∈ outcomes) :
    ∃ g, x = .error g ∧ f.message.toList <:+: g.message.toList := by
  have hsaid : f.message ∈ outcomes.filterMap complaint? := List.mem_filterMap.mpr ⟨_, hf, rfl⟩
  refine ⟨_, h.failed _ hf nofun, (toList_infix_intercalate "; " hsaid).trans ?_⟩
  rw [NotifyError.message_delivery, String.toList_append]
  exact (List.suffix_append _ _).isInfix

/-- The failures among outcomes. -/
def failures (outcomes : List Delivery) : List NotifyError :=
  outcomes.filterMap fun
    | .ok () => none
    | .error f => some f

theorem map_message_failures (outcomes : List Delivery) :
    (failures outcomes).map NotifyError.message = outcomes.filterMap complaint? := by
  rw [failures, List.map_filterMap]
  refine List.filterMap_congr fun o _ => ?_
  cases o <;> rfl

theorem failures_eq_nil_iff : failures outcomes = [] ↔ ∀ o ∈ outcomes, o = .ok () := by
  rw [failures, List.filterMap_eq_nil_iff]
  refine forall₂_congr fun o _ => ?_
  cases o <;> simp

/-- A fan-out joins the outcomes of its children by their failures. -/
theorem joined_iff : Joined outcomes x ↔ together (failures outcomes) = x := by
  by_cases hfine : ∀ o ∈ outcomes, o = .ok ()
  · have htogether : together (failures outcomes) = .ok () := by
      rw [failures_eq_nil_iff.mpr hfine]
      rfl
    rw [htogether]
    constructor
    · exact fun h => (h.fine hfine).symm
    · rintro rfl
      exact ⟨fun _ => rfl, fun o ho hfailed => absurd (hfine o ho) hfailed⟩
  · have htogether : together (failures outcomes) =
        .error (.delivery ("; ".intercalate (outcomes.filterMap complaint?))) := by
      rw [together, if_neg (by rwa [List.isEmpty_iff, failures_eq_nil_iff]), map_message_failures]
    rw [htogether]
    constructor
    · intro h
      obtain ⟨o, ho, hfailed⟩ : ∃ o ∈ outcomes, o ≠ .ok () := by simpa using hfine
      exact (h.failed o ho hfailed).symm
    · rintro rfl
      exact ⟨fun h => absurd h hfine, fun _ _ _ => rfl⟩

end Outcomes

/-! ## Runs -/

section Runs

variable {e : Event E} {s : Sink L} {ss : List (Sink L)} {t : Trace (callSignature L E)}
  {x : Delivery}

/-- Runs of the sending to each of several sinks, with their outcomes. -/
abbrev Runs (e : Event E) (ss : List (Sink L))
    (runs : List (Trace (callSignature L E) × Delivery)) : Prop :=
  List.Forall₂ (fun s run => (s.dispatch e).Ends run.1 run.2) ss runs

/-- Sending to several sinks is sending to each of them, one after the other. -/
theorem ends_failuresOf {fs : List NotifyError} :
    (failuresOf (deliver e) ss).Ends t fs ↔ ∃ runs, Runs e ss runs ∧
      t = (runs.map Prod.fst).flatten ∧ failures (runs.map Prod.snd) = fs := by
  induction ss generalizing t fs with
  | nil =>
    constructor
    · rintro ⟨rfl, rfl⟩
      exact ⟨[], .nil, rfl, rfl⟩
    · rintro ⟨runs, hruns, rfl, rfl⟩
      cases hruns
      exact ⟨rfl, rfl⟩
  | cons s ss ih =>
    rw [failuresOf, Program.bind_eq, Program.ends_bind]
    simp only [Program.bind_eq, Program.ends_bind, ih]
    constructor
    · rintro ⟨o, t₁, hs, -, rfl, fs', -, ⟨runs, hruns, rfl, rfl⟩, t₂, rfl, hend⟩
      refine ⟨(t₁, o) :: runs, .cons hs hruns, ?_⟩
      cases o with
      | ok u =>
        obtain ⟨rfl, rfl⟩ := hend
        exact ⟨by simp, rfl⟩
      | error f =>
        obtain ⟨rfl, rfl⟩ := hend
        exact ⟨by simp, rfl⟩
    · rintro ⟨runs, hruns, rfl, rfl⟩
      cases hruns with
      | @cons _ run _ runs hs hruns =>
        refine ⟨run.2, run.1, hs, (runs.map Prod.fst).flatten, by simp,
          failures (runs.map Prod.snd), _, ⟨runs, hruns, rfl, rfl⟩, [], by simp, ?_⟩
        obtain ⟨t₁, o⟩ := run
        cases o <;> exact ⟨rfl, rfl⟩

/-- A run of a fan-out consists of a run of each of its children, and joins their outcomes. -/
theorem ends_fanout : ((fanout ss).dispatch e).Ends t x ↔ ∃ runs, Runs e ss runs ∧
    t = (runs.map Prod.fst).flatten ∧ Joined (runs.map Prod.snd) x := by
  rw [dispatch, send, Program.bind_eq, Program.ends_bind]
  simp only [ends_failuresOf, joined_iff]
  constructor
  · rintro ⟨fs, t₁, ⟨runs, hruns, rfl, rfl⟩, t₂, rfl, rfl, rfl⟩
    exact ⟨runs, hruns, by simp, rfl⟩
  · rintro ⟨runs, hruns, rfl, rfl⟩
    exact ⟨_, _, ⟨runs, hruns, rfl, rfl⟩, [], by simp, rfl, rfl⟩

/-! ## Trees -/

/-- What is true of a run of the sending of an event to a tree. -/
structure Reaches (e : Event E) (s : Sink L) (t : Trace (callSignature L E)) (x : Delivery) :
    Prop where
  /-- Each single sink is called once, from the left to the right, with the event. -/
  calls : t.map (·.question) = s.leaves.map fun l => (l, e)
  fine_iff : x = .ok () ↔ ∀ act ∈ t, (act.answer : Delivery) = .ok ()
  /-- What a single sink that fails says is read in the failure at the root. -/
  told : ∀ act ∈ t, ∀ f, (act.answer : Delivery) = .error f →
    ∃ g, x = .error g ∧ f.message.toList <:+: g.message.toList

theorem reaches_single {l : L} (h : ((single l).dispatch e).Ends t x) :
    Reaches e (single l) t x := by
  obtain ⟨o, u, rfl, rfl, rfl⟩ := h
  exact {
    calls := rfl
    fine_iff := by simp
    told := by
      intro act hact f hf
      cases List.mem_singleton.mp hact
      exact ⟨f, hf, List.infix_refl _⟩ }

/-- The calls of several runs are those of the single sinks of all of them. -/
theorem calls_of_reaches {runs : List (Trace (callSignature L E) × Delivery)}
    (h : List.Forall₂ (fun s run => Reaches e s run.1 run.2) ss runs) :
    (runs.map Prod.fst).flatten.map (·.question) = (leavesOf ss).map fun l => (l, e) := by
  induction h with
  | nil => rfl
  | cons hs _ ih =>
    rw [List.map_cons, List.flatten_cons, List.map_append, hs.calls, ih, leavesOf, List.map_append]

theorem reaches_fanout (hchildren : ∀ s ∈ ss, ∀ t x, (s.dispatch e).Ends t x → Reaches e s t x)
    (h : ((fanout ss).dispatch e).Ends t x) : Reaches e (fanout ss) t x := by
  obtain ⟨runs, hruns, rfl, hjoined⟩ := ends_fanout.mp h
  have hreach : List.Forall₂ (fun s run => Reaches e s run.1 run.2) ss runs :=
    ((List.forall₂_and_left _ _).mpr ⟨hchildren, hruns⟩).imp fun _ _ h => h.1 _ _ h.2
  have hrun : ∀ run ∈ runs, ∃ s, Reaches e s run.1 run.2 := by
    intro run hmem
    obtain ⟨s, -, hs⟩ := exists_of_forall₂ hreach.flip hmem
    exact ⟨s, hs⟩
  have hact {act : (callSignature L E).Act} (hact : act ∈ (runs.map Prod.fst).flatten) :
      ∃ run ∈ runs, act ∈ run.1 := by simpa using hact
  exact {
    calls := calls_of_reaches hreach
    fine_iff := by
      rw [hjoined.eq_ok_iff, List.forall_mem_map]
      constructor
      · intro hfine act hmem
        obtain ⟨run, hmem, hin⟩ := hact hmem
        obtain ⟨s, hs⟩ := hrun run hmem
        exact hs.fine_iff.mp (hfine run hmem) act hin
      · intro hfine run hmem
        obtain ⟨s, hs⟩ := hrun run hmem
        exact hs.fine_iff.mpr fun act hin =>
          hfine act (List.mem_flatten_of_mem (List.mem_map_of_mem hmem) hin)
    told := by
      intro act hmem f hf
      obtain ⟨run, hmem, hin⟩ := hact hmem
      obtain ⟨s, hs⟩ := hrun run hmem
      obtain ⟨g, hg, hinfix⟩ := hs.told act hin f hf
      have houtcome : (.error g : Delivery) ∈ runs.map Prod.snd := by
        rw [← hg]
        exact List.mem_map_of_mem hmem
      obtain ⟨g', hg', hinfix'⟩ := hjoined.exists_error houtcome
      exact ⟨g', hg', hinfix.trans hinfix'⟩ }

/-- **Every run reaches every single sink.** -/
theorem reaches_of_ends (h : (s.dispatch e).Ends t x) : Reaches e s t x := by
  induction s using tree_induction generalizing t x with
  | onSingle l => exact reaches_single h
  | onFanout ss ih => exact reaches_fanout (fun s hs t x => ih s hs) h

/-- The single sinks of several trees may answer anything if those of each tree may. -/
theorem exists_runs {outcomes : List Delivery}
    (hany : ∀ s ∈ ss, ∀ answers : List Delivery, answers.length = s.leaves.length → ∃ t x,
      (s.dispatch e).Ends t x ∧ t.map (fun act => (act.answer : Delivery)) = answers)
    (h : outcomes.length = (leavesOf ss).length) : ∃ runs, Runs e ss runs ∧
      (runs.map Prod.fst).flatten.map (fun act => (act.answer : Delivery)) = outcomes := by
  induction ss generalizing outcomes with
  | nil => exact ⟨[], .nil, (List.length_eq_zero_iff.mp h).symm⟩
  | cons s ss ih =>
    rw [List.forall_mem_cons] at hany
    rw [leavesOf, List.length_append] at h
    have hfirst : (outcomes.take s.leaves.length).length = s.leaves.length := by
      rw [List.length_take]
      omega
    have hothers : (outcomes.drop s.leaves.length).length = (leavesOf ss).length := by
      rw [List.length_drop]
      omega
    obtain ⟨t, x, hend, ht⟩ := hany.1 _ hfirst
    obtain ⟨runs, hruns, hrest⟩ := ih hany.2 hothers
    refine ⟨(t, x) :: runs, .cons hend hruns, ?_⟩
    rw [List.map_cons, List.flatten_cons, List.map_append, ht, hrest, List.take_append_drop]

/-- The single sinks may answer anything. -/
theorem exists_run (s : Sink L) (e : Event E) (outcomes : List Delivery)
    (h : outcomes.length = s.leaves.length) :
    ∃ t x, (s.dispatch e).Ends t x ∧ t.map (fun act => (act.answer : Delivery)) = outcomes := by
  induction s using tree_induction generalizing outcomes with
  | onSingle l =>
    obtain ⟨o, rfl⟩ := List.length_eq_one_iff.mp h
    exact ⟨[⟨(l, e), o⟩], o, ⟨o, [], rfl, rfl, rfl⟩, rfl⟩
  | onFanout ss ih =>
    obtain ⟨runs, hruns, hanswers⟩ := exists_runs ih h
    exact ⟨_, _, ends_fanout.mpr ⟨runs, hruns, rfl, joined_iff.mpr rfl⟩, hanswers⟩

end Runs

/-- **Fan-outs reach every sink.** Over any monad, sending is a run of one program, whose single
sinks may answer anything. In every run each single sink is called once, from the left to the right,
with the event; the outcome is fine exactly if all answers are, and else says what each failed one
says. A fan-out fails by saying what its failed children say, in their order and nothing else. -/
theorem fanout_reaches_every_sink (s : Sink L) (e : Event E) :
    (∀ {m : Type → Type} [Monad m] [LawfulMonad m] (serve : L → Event E → m Delivery),
      s.send (serve · e) = (s.dispatch e).run (answering serve)) ∧
    (∀ outcomes : List Delivery, outcomes.length = s.leaves.length → ∃ t x,
      (s.dispatch e).Ends t x ∧ t.map (fun act => (act.answer : Delivery)) = outcomes) ∧
    ∀ t x, (s.dispatch e).Ends t x → Reaches e s t x ∧
      ∀ ss, s = fanout ss → ∃ runs, Runs e ss runs ∧ t = (runs.map Prod.fst).flatten ∧
        Joined (runs.map Prod.snd) x := by
  refine ⟨fun serve => send_eq_run serve e s, exists_run s e, fun t x h => ?_⟩
  refine ⟨reaches_of_ends h, ?_⟩
  rintro ss rfl
  exact ends_fanout.mp h

/-- Of three sinks, two of them below a second fan-out, the last one fails: all are called, and what
it says is read at the root. -/
theorem fanout_reaches_every_sink_nested :
    let e : Event Unit := ⟨.created, ()⟩
    ∃ t x, ((fanout [single 0, fanout [single 1, single 2]]).dispatch e).Ends t x ∧
      t.map (·.question) = [(0, e), (1, e), (2, e)] ∧
      ∃ g, x = .error g ∧ "failed to deliver event: closed".toList <:+: g.message.toList := by
  intro e
  obtain ⟨-, hany, hall⟩ :=
    fanout_reaches_every_sink (fanout [single 0, fanout [single 1, single 2]]) e
  obtain ⟨t, x, hend, hanswers⟩ := hany [.ok (), .ok (), .error (.delivery "closed")] rfl
  obtain ⟨hreaches, -⟩ := hall t x hend
  obtain ⟨act, hact, hfailed⟩ :
      ∃ act ∈ t, (act.answer : Delivery) = .error (.delivery "closed") := by
    rw [← List.mem_map, hanswers]
    simp
  have hmessage : (NotifyError.delivery "closed").message = "failed to deliver event: closed" := by
    decide
  rw [← hmessage]
  exact ⟨t, x, hend, hreaches.calls, hreaches.told act hact _ hfailed⟩

end Sink

end Gatehouse
