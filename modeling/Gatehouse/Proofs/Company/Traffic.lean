import Gatehouse.Proofs.Company.Rows
import Gatehouse.Proofs.Process

/-!
# Requests side by side

Any number of requests in front of one registry. One step is that of one request; if it is a call on
the registry, the answer is what the registry holds at this moment, and the call leaves the registry
as it does. All other answers may be whatever they like. A history says which request did what, in
order, and every order of steps is a history of some system of requests.

What one request did (`said`) is a run of that request, and what the registry holds at a moment is
what the history up to there has made of it (`following`).
-/

namespace Gatehouse

/-- What happened, and to which request. -/
abbrev History := List (Nat × Happening systemSignature)

namespace Registry

/-- The registry after something happened. -/
def after (r : Registry) : Happening systemSignature → Registry
  | .act ⟨.registry call, _⟩ => (call.perform r).2
  | _ => r

/-- The registry after a history. -/
def following (r : Registry) (h : History) : Registry := h.foldl (fun r e => r.after e.2) r

@[simp] theorem following_nil (r : Registry) : r.following [] = r := rfl

@[simp] theorem following_cons (r : Registry) (e : Nat × Happening systemSignature) (h : History) :
    r.following (e :: h) = (r.after e.2).following h := rfl

@[simp] theorem following_append (r : Registry) (h k : History) :
    r.following (h ++ k) = (r.following h).following k :=
  List.foldl_append ..

end Registry

/-- Whether something that happened may have changed the row under a key. -/
def Happening.touches (id : Uuid) : Happening systemSignature → Bool
  | .act ⟨.registry call, _⟩ => call.touches id
  | _ => false

namespace Registry

variable {r : Registry} {id : Uuid}

theorem find?_after {e : Happening systemSignature} (he : e.touches id = false) :
    (r.after e).find? id = r.find? id := by
  unfold after
  split
  · exact RegistryCall.find?_perform he
  · rfl

/-- A row that nobody touches stays as it is. -/
theorem find?_following {h : History} (hh : ∀ e ∈ h, e.2.touches id = false) :
    (r.following h).find? id = r.find? id := by
  induction h generalizing r with
  | nil => rfl
  | cons e h ih =>
    rw [following_cons, ih fun e he => hh e (List.mem_cons_of_mem _ he)]
    exact find?_after (hh e List.mem_cons_self)

theorem Keyed.after (hr : r.Keyed) (e : Happening systemSignature) : (r.after e).Keyed := by
  unfold Registry.after
  split
  · exact RegistryCall.keyed_perform hr
  · exact hr

theorem Keyed.following (hr : r.Keyed) (h : History) : (r.following h).Keyed := by
  induction h generalizing r with
  | nil => exact hr
  | cons e h ih => exact ih (hr.after e.2)

end Registry

/-- Requests under way in front of one registry. -/
structure Traffic (β : Type) where
  registry : Registry
  requests : Nat → Process systemSignature Company β

namespace Traffic

variable {β : Type} {w w' w'' : Traffic β} {i : Nat} {h k : History}

/-! ## Steps -/

/-- With another state of one request. -/
def put (w : Traffic β) (i : Nat) (p : Process systemSignature Company β) :
    Nat → Process systemSignature Company β :=
  fun j => if j = i then p else w.requests j

/-- A step of one request, which hears from the registry what the registry holds. -/
inductive Step : Traffic β → Nat × Happening systemSignature → Traffic β → Prop where
  | step {w : Traffic β} {i : Nat} {e : Happening systemSignature}
    {p : Process systemSignature Company β} (own : Process.Step (w.requests i) e p)
    (told : ∀ call x, e = .act ⟨.registry call, x⟩ → x = (call.perform w.registry).1) :
    Step w (i, e) ⟨w.registry.after e, w.put i p⟩

/-- The steps of a history, one after the other. -/
inductive Steps : Traffic β → History → Traffic β → Prop where
  | nil (w : Traffic β) : Steps w [] w
  | cons {w w' w'' : Traffic β} {e : Nat × Happening systemSignature} {h : History} :
    Step w e w' → Steps w' h w'' → Steps w (e :: h) w''

theorem Steps.append (h₁ : Steps w h w') (h₂ : Steps w' k w'') : Steps w (h ++ k) w'' := by
  induction h₁ with
  | nil => exact h₂
  | cons hstep _ ih => exact .cons hstep (ih h₂)

/-- Any moment of a history is one at which the system was in some state. -/
theorem Steps.split (hs : Steps w (h ++ k) w'') : ∃ w', Steps w h w' ∧ Steps w' k w'' := by
  induction h generalizing w with
  | nil => exact ⟨w, .nil w, hs⟩
  | cons e h ih =>
    obtain _ | ⟨hstep, hs⟩ := hs
    obtain ⟨w', h₁, h₂⟩ := ih hs
    exact ⟨w', .cons hstep h₁, h₂⟩

theorem Steps.registry_eq (hs : Steps w h w') : w'.registry = w.registry.following h := by
  induction hs with
  | nil => rfl
  | cons hstep _ ih =>
    cases hstep
    exact ih

/-- Whoever calls on the registry is told what it holds at this moment. -/
theorem Steps.told {call : RegistryCall} {x : call.Answer}
    (hs : Steps w (h ++ (i, .act ⟨.registry call, x⟩) :: k) w') :
    x = (call.perform (w.registry.following h)).1 := by
  obtain ⟨w₁, h₁, h₂⟩ := hs.split
  obtain _ | ⟨hstep, -⟩ := h₂
  cases hstep with
  | step own told => rw [← h₁.registry_eq, told call x rfl]

/-! ## What one request did -/

/-- What happened to one request. -/
def own (i : Nat) (h : History) : List (Happening systemSignature) :=
  h.filterMap fun e => if e.1 = i then some e.2 else none

/-- The questions of one request with their answers. -/
def said (i : Nat) (h : History) : Trace systemSignature := acts (own i h)

theorem own_cons_self (i : Nat) (e : Happening systemSignature) (h : History) :
    own i ((i, e) :: h) = e :: own i h :=
  List.filterMap_cons_some (if_pos rfl)

theorem own_cons_of_ne {j : Nat} (hj : j ≠ i) (e : Happening systemSignature) (h : History) :
    own i ((j, e) :: h) = own i h :=
  List.filterMap_cons_none (if_neg hj)

theorem own_append (i : Nat) (h k : History) : own i (h ++ k) = own i h ++ own i k :=
  List.filterMap_append ..

theorem said_append (i : Nat) (h k : History) : said i (h ++ k) = said i h ++ said i k := by
  rw [said, own_append, acts_append]
  rfl

theorem said_cons_self (i : Nat) (a : systemSignature.Act) (h : History) :
    said i ((i, .act a) :: h) = a :: said i h := by
  rw [said, own_cons_self]
  rfl

theorem mem_own {e : Happening systemSignature} : e ∈ own i h ↔ (i, e) ∈ h := by
  rw [own, List.mem_filterMap]
  constructor
  · rintro ⟨⟨j, e⟩, hmem, heq⟩
    split at heq
    · rename_i hj
      cases heq
      cases hj
      exact hmem
    · cases heq
  · intro hmem
    exact ⟨_, hmem, by simp⟩

theorem mem_said {a : systemSignature.Act} : a ∈ said i h ↔ (i, .act a) ∈ h := by
  rw [said, mem_acts, mem_own]

/-- What happened to one request is a history of that request. -/
theorem Steps.own (hs : Steps w h w') (i : Nat) :
    Process.Steps (w.requests i) (own i h) (w'.requests i) := by
  induction hs with
  | nil => exact .nil _
  | cons hstep _ ih =>
    cases hstep with
    | @step j e p hown told =>
      by_cases hj : j = i
      · subst hj
        rw [own_cons_self]
        exact .cons hown (by simpa [put] using ih)
      · rw [own_cons_of_ne hj]
        simpa [put, Ne.symm hj] using ih

/-- Requests that have just been handed in, in front of a registry. -/
def handedIn (r : Registry) (requests : Nat → Option (Request systemSignature Company β)) :
    Traffic β where
  registry := r
  requests i :=
    match requests i with
    | some request => .planning request
    | none => .ended none

/-- Whoever asks something has been handed in, and what was asked is a run of this request. -/
theorem begins_of_handedIn {r : Registry}
    {requests : Nat → Option (Request systemSignature Company β)}
    (hs : Steps (handedIn r requests) h w) {a : systemSignature.Act} (ha : (i, .act a) ∈ h) :
    ∃ request, requests i = some request ∧ request.carryOut.Begins (said i h) := by
  have hown := hs.own i
  rw [handedIn] at hown
  cases hi : requests i with
  | none =>
    simp only [hi] at hown
    have hsaid : a ∈ said i h := mem_said.mpr ha
    rw [said, hown.eq_of_ended.1] at hsaid
    exact absurd hsaid List.not_mem_nil
  | some request =>
    simp only [hi] at hown
    exact ⟨request, rfl, Process.begins_of_steps hown⟩

/-- Where a question stands among those of its request tells where it stands in the history. -/
theorem exists_split_of_said {a : systemSignature.Act} {t u : Trace systemSignature}
    (hsaid : said i h = t ++ a :: u) :
    ∃ h₁ h₂, h = h₁ ++ (i, .act a) :: h₂ ∧ said i h₁ = t ∧ said i h₂ = u := by
  induction h generalizing t with
  | nil => exact absurd (List.append_eq_nil_iff.mp hsaid.symm).2 (List.cons_ne_nil _ _)
  | cons e h ih =>
    -- What is in front belongs to another request, says nothing, or is the first of the questions.
    by_cases hact : ∃ b, e = (i, .act b)
    · obtain ⟨b, rfl⟩ := hact
      rw [said_cons_self] at hsaid
      cases t with
      | nil =>
        obtain ⟨rfl, rfl⟩ := List.cons.inj hsaid
        exact ⟨[], h, rfl, rfl, rfl⟩
      | cons c t =>
        obtain ⟨rfl, hrest⟩ := List.cons.inj hsaid
        obtain ⟨h₁, h₂, rfl, rfl, rfl⟩ := ih hrest
        exact ⟨(i, .act b) :: h₁, h₂, rfl, said_cons_self i b h₁, rfl⟩
    · have hskip : ∀ k, said i (e :: k) = said i k := by
        intro k
        obtain ⟨j, e⟩ := e
        by_cases hj : j = i
        · cases e with
          | act b => exact absurd ⟨b, by rw [hj]⟩ hact
          | _ => simp [said, Traffic.own, hj]
        · simp [said, Traffic.own, hj]
      rw [hskip] at hsaid
      obtain ⟨h₁, h₂, rfl, rfl, rfl⟩ := ih hsaid
      exact ⟨e :: h₁, h₂, rfl, hskip h₁, rfl⟩

/-! ## Schedules -/

/-- Answers of surroundings with a registry, all others fixed. -/
def answering (r : Registry) (fixed : (q : SystemCall) → q.Answer) : (q : SystemCall) → q.Answer
  | .registry call => (call.perform r).1
  | q => fixed q

/-- The history in which the requests take their steps in the given order, callers staying, and the
system after it. -/
def exec (fixed : (q : SystemCall) → q.Answer) : Traffic β → List Nat → History × Traffic β
  | w, [] => ([], w)
  | w, i :: is =>
    match (w.requests i).advance (answering w.registry fixed) with
    | none => exec fixed w is
    | some (e, p) =>
      let (h, w') := exec fixed ⟨w.registry.after e, w.put i p⟩ is
      ((i, e) :: h, w')

theorem steps_exec (fixed : (q : SystemCall) → q.Answer) (w : Traffic β) (is : List Nat) :
    Steps w (exec fixed w is).1 (exec fixed w is).2 := by
  induction is generalizing w with
  | nil => exact .nil w
  | cons i is ih =>
    rw [exec]
    split
    · exact ih w
    · rename_i e p hp
      obtain ⟨hstep, -, htold⟩ := Process.step_of_advance hp
      exact .cons (.step hstep fun call x he => htold _ x he) (ih _)

/-- Whatever the others have come to, a request is brought to its end by steps of its own, and its
caller need not leave. -/
theorem exists_ending (fixed : (q : SystemCall) → q.Answer) (w : Traffic β) (i : Nat) :
    ∃ k w' got, Steps w k w' ∧ (∀ e ∈ k, e.1 = i ∧ e.2 ≠ .leave) ∧ w'.requests i = .ended got := by
  generalize hp : w.requests i = p
  induction p using Process.wellFounded_step.induction generalizing w with
  | _ p ih =>
    cases hnext : p.advance (answering w.registry fixed) with
    | none =>
      obtain ⟨got, rfl⟩ := Process.eq_ended_of_advance hnext
      exact ⟨[], w, got, .nil w, by simp, hp⟩
    | some next =>
      obtain ⟨e, p'⟩ := next
      obtain ⟨hstep, hleave, htold⟩ := Process.step_of_advance hnext
      have hfirst : Step w (i, e) ⟨w.registry.after e, w.put i p'⟩ :=
        .step (hp ▸ hstep) fun call x he => htold _ x he
      have hnow : (Traffic.mk (w.registry.after e) (w.put i p')).requests i = p' := by simp [put]
      obtain ⟨k, w', got, hk, hown, hended⟩ := ih p' ⟨e, hstep⟩ _ hnow
      refine ⟨(i, e) :: k, w', got, .cons hfirst hk, ?_, hended⟩
      simpa using ⟨hleave, fun j e he => hown (j, e) he⟩

/-- Only requests that are in the schedule do anything. -/
theorem mem_of_mem_exec {fixed : (q : SystemCall) → q.Answer} {w : Traffic β} {is : List Nat}
    {e : Nat × Happening systemSignature} (he : e ∈ (exec fixed w is).1) : e.1 ∈ is := by
  induction is generalizing w with
  | nil => exact absurd he List.not_mem_nil
  | cons i is ih =>
    rw [exec] at he
    split at he
    · exact List.mem_cons_of_mem i (ih he)
    · rcases List.mem_cons.mp he with rfl | he
      · exact List.mem_cons_self
      · exact List.mem_cons_of_mem i (ih he)

end Traffic

end Gatehouse
