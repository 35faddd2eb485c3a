import Gatehouse.Notify.Channel
import Mathlib.Algebra.Ring.Nat

/-!
# What subscribers of a channel are told

A channel is shared: one ring of the newest events, into which everyone looks at their own place.
For a subscriber it is as if it had a mailbox to itself: what is sent is put in, and a look takes
the oldest letter out, or, when the box holds more than the ring, throws away what is too much and
says how much that was. What a subscriber is told therefore depends on what is sent and on what it
does itself, and it can account for every event sent since it came.

The vocabulary is `Step`, `after` and `told` for what is done with a channel and what a subscriber
is told meanwhile, `events` and `lost` for the two kinds of news, and `backlog` for what a
subscriber has not looked at, of which `waiting` is still kept and `missed` is not. The argument is
on `Mailbox`.
-/

namespace Gatehouse

/-! ## News -/

namespace Received

variable {E : Type}

/-- The event that is told, if it is one. -/
def event? : Received E → Option E
  | .event e => some e
  | .nothing | .lagged _ => none

/-- How many events are told to be lost. -/
def lag : Received E → Nat
  | .lagged lost => lost
  | .event _ | .nothing => 0

/-- The events among the news, in order. -/
def events (news : List (Received E)) : List E := news.filterMap event?

/-- How many events the news tell to be lost, all together. -/
def lost (news : List (Received E)) : Nat := (news.map lag).sum

@[simp] theorem events_nil : events ([] : List (Received E)) = [] := rfl

@[simp] theorem lost_nil : lost ([] : List (Received E)) = 0 := rfl

@[simp] theorem events_singleton (r : Received E) : events [r] = r.event?.toList := by
  cases r <;> rfl

@[simp] theorem lost_singleton (r : Received E) : lost [r] = r.lag := by simp [lost]

@[simp] theorem events_append (a b : List (Received E)) : events (a ++ b) = events a ++ events b :=
  List.filterMap_append

@[simp] theorem lost_append (a b : List (Received E)) : lost (a ++ b) = lost a + lost b := by
  simp [lost]

end Received

namespace Channel

open Received

variable {E : Type}

/-! ## Steps -/

/-- What is done with a channel. -/
inductive Step (E : Type) where
  | subscribe
  | send (e : E)
  | receive (n : Nat)
  | leave (n : Nat)

/-- The channel after a step. Whoever is no subscriber looks in vain. -/
def step (c : Channel E) : Step E → Channel E
  | .subscribe => c.subscribe
  | .send e => c.send e
  | .receive n => ((c.receive n).map (·.2)).getD c
  | .leave n => c.leave n

/-- The channel after some steps. -/
def after (c : Channel E) (steps : List (Step E)) : Channel E := steps.foldl step c

/-- What a step tells a subscriber: nothing, unless it is the subscriber who looks. -/
def tells (n : Nat) (c : Channel E) : Step E → List (Received E)
  | .receive k => if k = n then ((c.receive n).map (·.1)).toList else []
  | _ => []

/-- What a subscriber is told in the course of some steps. -/
def told (n : Nat) : Channel E → List (Step E) → List (Received E)
  | _, [] => []
  | c, s :: steps => c.tells n s ++ told n (c.step s) steps

/-- The events that are sent in the course of some steps. -/
def sends (steps : List (Step E)) : List E :=
  steps.filterMap fun
    | .send e => some e
    | _ => none

/-- The kept events that a subscriber has not looked at. -/
def waiting (c : Channel E) (n : Nat) : List E :=
  ((c.position? n).map fun p => c.kept.drop (p - c.dropped)).getD []

/-- How many events a subscriber has lost without having been told so. -/
def missed (c : Channel E) (n : Nat) : Nat := ((c.position? n).map (c.dropped - ·)).getD 0

/-- How many events a subscriber has neither been given nor been told to be lost. -/
def backlog (c : Channel E) (n : Nat) : Nat := c.missed n + (c.waiting n).length

theorem after_append (c : Channel E) (a b : List (Step E)) :
    c.after (a ++ b) = (c.after a).after b :=
  List.foldl_append

theorem sends_append (a b : List (Step E)) : sends (a ++ b) = sends a ++ sends b :=
  List.filterMap_append

theorem told_append (n : Nat) (c : Channel E) (a b : List (Step E)) :
    told n c (a ++ b) = told n c a ++ told n (c.after a) b := by
  induction a generalizing c with
  | nil => rfl
  | cons s a ih =>
    show c.tells n s ++ told n (c.step s) (a ++ b) = _
    rw [ih, ← List.append_assoc]
    rfl

/-! ## A subscriber on its own -/

/-- What concerns one subscriber: what is sent, and what it does itself. -/
inductive Concern (E : Type) where
  | send (e : E)
  | look
  | leave

/-- What a step is to a subscriber. What others do for themselves is nothing to it. -/
def Step.concern? (n : Nat) : Step E → Option (Concern E)
  | .subscribe => none
  | .send e => some (.send e)
  | .receive k => if k = n then some .look else none
  | .leave k => if k = n then some .leave else none

/-- The steps that concern a subscriber. -/
def concerns (n : Nat) (steps : List (Step E)) : List (Concern E) :=
  steps.filterMap (Step.concern? n)

/-- The letters of a subscriber, oldest first; none once it has left. -/
abbrev Mailbox (E : Type) := Option (List E)

namespace Mailbox

/-- The letters. -/
def letters (box : Mailbox E) : List E := box.getD []

/-- A look into a mailbox with room for so many letters: what is told, and what is left. -/
def look (size : Nat) (letters : List E) : Received E × List E :=
  if size < letters.length then
    (.lagged (letters.length - size), letters.drop (letters.length - size))
  else
    match letters with
    | [] => (.nothing, [])
    | e :: rest => (.event e, rest)

/-- What is told in a step, and the mailbox after it. -/
def step (size : Nat) : Mailbox E → Concern E → List (Received E) × Mailbox E
  | none, _ => ([], none)
  | some letters, .send e => ([], some (letters ++ [e]))
  | some letters, .look => ([(look size letters).1], some (look size letters).2)
  | some _, .leave => ([], none)

/-- What is told in the course of some steps, and the mailbox after them. -/
def run (size : Nat) : Mailbox E → List (Concern E) → List (Received E) × Mailbox E
  | box, [] => ([], box)
  | box, o :: os =>
    ((step size box o).1 ++ (run size (step size box o).2 os).1,
      (run size (step size box o).2 os).2)

/-- What is put into a mailbox. -/
def posted (os : List (Concern E)) : List E :=
  os.filterMap fun
    | .send e => some e
    | _ => none

@[simp] theorem posted_send (e : E) (os : List (Concern E)) :
    posted (.send e :: os) = e :: posted os := rfl

@[simp] theorem posted_look (os : List (Concern E)) : posted (.look :: os) = posted os := rfl

theorem posted_cons (o : Concern E) (os : List (Concern E)) :
    posted (o :: os) = posted [o] ++ posted os := by
  rw [← List.singleton_append]
  exact List.filterMap_append

variable {size : Nat} {box : Mailbox E}

@[simp] theorem run_none (os : List (Concern E)) : run size none os = ([], none) := by
  induction os with
  | nil => rfl
  | cons o os ih => simp [run, step, ih]

theorem run_append (a b : List (Concern E)) :
    run size box (a ++ b) =
      ((run size box a).1 ++ (run size (run size box a).2 b).1,
        (run size (run size box a).2 b).2) := by
  induction a generalizing box with
  | nil => rfl
  | cons o a ih => simp [run, ih, List.append_assoc]

/-- A look gives an event or throws events away; all others stay, in order. -/
theorem look_sublist (size : Nat) (letters : List E) :
    ((look size letters).1.event?.toList ++ (look size letters).2).Sublist letters := by
  unfold look
  split
  · exact List.drop_sublist _ _
  · cases letters <;> exact List.Sublist.refl _

/-- A look gives an event, or says how many it threw away, or there was none. -/
theorem look_count (size : Nat) (letters : List E) :
    (look size letters).1.event?.toList.length + (look size letters).1.lag +
      (look size letters).2.length = letters.length := by
  unfold look
  split
  · simp only [event?, lag, Option.toList_none, List.length_nil, List.length_drop]
    omega
  · cases letters <;> simp [event?, lag, Nat.add_comm]

/-- No event is told out of order or twice, and none that was not sent. -/
theorem run_sublist (size : Nat) (box : Mailbox E) (os : List (Concern E)) :
    (events (run size box os).1 ++ (run size box os).2.letters).Sublist
      (box.letters ++ posted os) := by
  induction os generalizing box with
  | nil => simp [run, posted]
  | cons o os ih =>
    have hstep : (events (step size box o).1 ++ (step size box o).2.letters).Sublist
        (box.letters ++ posted [o]) := by
      match box, o with
      | none, _ => exact List.nil_sublist _
      | some _, .leave => exact List.nil_sublist _
      | some letters, .send e => exact List.Sublist.refl _
      | some letters, .look =>
        have hlook := look_sublist size letters
        rw [← events_singleton] at hlook
        simpa [step, posted, Mailbox.letters] using hlook
    calc
      _ = events (step size box o).1 ++ (events (run size (step size box o).2 os).1 ++
            (run size (step size box o).2 os).2.letters) := by
          rw [run, events_append, List.append_assoc]
      List.Sublist _ (events (step size box o).1 ++ ((step size box o).2.letters ++ posted os)) :=
          (ih _).append_left _
      List.Sublist _ (box.letters ++ posted (o :: os)) := by
          rw [← List.append_assoc, posted_cons, ← List.append_assoc]
          exact hstep.append_right _

/-- While a subscriber stays, every event is told, told to be lost, or in the mailbox. -/
theorem run_count (size : Nat) (letters : List E) (os : List (Concern E))
    (h : Concern.leave ∉ os) :
    (events (run size (some letters) os).1).length + lost (run size (some letters) os).1 +
      (run size (some letters) os).2.letters.length = letters.length + (posted os).length := by
  induction os generalizing letters with
  | nil => simp [run, posted, Mailbox.letters]
  | cons o os ih =>
    have hos : Concern.leave ∉ os := fun hmem => h (List.mem_cons_of_mem o hmem)
    cases o with
    | leave => exact absurd List.mem_cons_self h
    | send e =>
      have htail := ih (letters ++ [e]) hos
      simp only [run, step, List.nil_append, posted_send, List.length_append, List.length_cons,
        List.length_nil] at htail ⊢
      omega
    | look =>
      have hlook := look_count size letters
      have htail := ih (look size letters).2 hos
      simp only [run, step, events_append, lost_append, events_singleton, lost_singleton,
        List.length_append, posted_look] at htail ⊢
      omega

end Mailbox

/-! ## Subscribers of a shared channel -/

/-- What a channel keeps of all that was sent into it while someone listened: how much it was, and
the newest part. -/
structure Keeps (c : Channel E) (history : List E) : Prop where
  total_eq : c.total = history.length
  kept_eq : c.kept = history.drop (history.length - c.capacity)

/-- What the place of a subscriber has to do with its mailbox: behind it in the history stands what
is in the box. Whoever has left has no place. -/
def Stands (c : Channel E) (history : List E) (n : Nat) : Mailbox E → Prop
  | some letters =>
    ∃ p, c.position? n = some p ∧ p ≤ history.length ∧ letters = history.drop p
  | none => n < c.readers.length ∧ c.position? n = none

/-- The history after a step. What is sent while nobody listens is no part of it. -/
def record (c : Channel E) (history : List E) : Step E → List E
  | .send e => if c.subscriberCount = 0 then history else history ++ [e]
  | _ => history

section Places

variable {c : Channel E} {history : List E} {n p : Nat} {box : Mailbox E}

theorem Keeps.dropped_eq (hk : Keeps c history) : c.dropped = history.length - c.capacity := by
  rw [dropped, hk.total_eq, hk.kept_eq, List.length_drop]
  omega

theorem lt_of_position? (h : c.position? n = some p) : n < c.readers.length := by
  refine Nat.lt_of_not_le fun hge => ?_
  rw [position?, List.getElem?_eq_none hge] at h
  cases h

theorem Stands.lt (h : Stands c history n box) : n < c.readers.length := by
  match box, h with
  | some _, ⟨_, hp, _⟩ => exact lt_of_position? hp
  | none, h => exact h.1

theorem subscriberCount_ne_zero (h : c.position? n = some p) : c.subscriberCount ≠ 0 := by
  have hmem : some p ∈ c.readers := by
    rw [position?, Option.join_eq_some_iff] at h
    exact List.mem_of_getElem? h
  have hlive : some p ∈ c.readers.filter Option.isSome := List.mem_filter.mpr ⟨hmem, rfl⟩
  exact Nat.ne_of_gt (List.length_pos_of_mem hlive)

/-- Who moves is where it moves to; all others are where they were. -/
theorem position?_moved (c : Channel E) {k : Nat} (hk : k < c.readers.length) (q : Option Nat) :
    position? { c with readers := c.readers.set k q } n = if k = n then q else c.position? n := by
  simp only [position?, List.getElem?_set, hk, if_true]
  split <;> rfl

/-- A look at a shared channel is a look into the mailbox of the one who looks. -/
theorem receive_eq_look (hk : Keeps c history) (hp : c.position? n = some p)
    (hle : p ≤ history.length) :
    ∃ q, c.receive n = some ((Mailbox.look c.capacity (history.drop p)).1,
        { c with readers := c.readers.set n (some q) }) ∧
      q ≤ history.length ∧ (Mailbox.look c.capacity (history.drop p)).2 = history.drop q := by
  have hlen : (history.drop p).length = history.length - p := List.length_drop
  rw [receive, hp]
  by_cases hlag : p < c.dropped
  · have hmore : c.capacity < (history.drop p).length := by
      rw [hk.dropped_eq] at hlag
      omega
    refine ⟨c.dropped, ?_, ?_, ?_⟩
    · have hlost : c.dropped - p = (history.drop p).length - c.capacity := by
        rw [hk.dropped_eq]
        omega
      simp only [hlag, if_true, Mailbox.look, hmore, hlost]
    · exact hk.dropped_eq ▸ Nat.sub_le _ _
    · simp only [Mailbox.look, hmore, if_true, List.drop_drop, hk.dropped_eq]
      congr 1
      omega
  · have hfits : ¬ c.capacity < (history.drop p).length := by
      rw [hk.dropped_eq] at hlag
      omega
    have hnext : c.kept[p - c.dropped]? = history[p]? := by
      rw [hk.kept_eq, ← hk.dropped_eq, List.getElem?_drop,
        Nat.add_sub_cancel' (Nat.le_of_not_lt hlag)]
    simp only [hlag, if_false, Mailbox.look, hfits, hnext]
    by_cases hp' : p < history.length
    · have hcons : history.drop p = history[p] :: history.drop (p + 1) :=
        List.drop_eq_getElem_cons hp'
      refine ⟨p + 1, ?_, hp', ?_⟩
      · rw [List.getElem?_eq_getElem hp', hcons]
      · rw [hcons]
    · have hset : c.readers.set n (some p) = c.readers := by
        rw [position?, Option.join_eq_some_iff] at hp
        obtain ⟨hn, hget⟩ := List.getElem?_eq_some_iff.mp hp
        rw [← hget, List.set_getElem_self]
      have hend : history.drop p = [] := List.drop_eq_nil_of_le (Nat.le_of_not_lt hp')
      refine ⟨p, ?_, hle, ?_⟩
      · rw [List.getElem?_eq_none (Nat.le_of_not_lt hp'), hend, hset]
      · rw [hend]

/-- One step keeps the newest part of the history. -/
theorem Keeps.step (hk : Keeps c history) (s : Step E) : Keeps (c.step s) (record c history s) := by
  cases s with
  | subscribe => exact ⟨hk.total_eq, hk.kept_eq⟩
  | leave k => exact ⟨hk.total_eq, hk.kept_eq⟩
  | receive k =>
    simp only [Channel.step, receive]
    split
    · exact hk
    · repeat' split
      all_goals exact ⟨hk.total_eq, hk.kept_eq⟩
  | send e =>
    simp only [Channel.step, send, record]
    split
    case isTrue => exact hk
    case isFalse =>
      refine ⟨?_, ?_⟩
      · simp [hk.total_eq]
      · have hold : history.length - c.capacity ≤ history.length := Nat.sub_le _ _
        simp only [hk.kept_eq, ← List.drop_append_of_le_length hold, List.drop_drop,
          List.length_drop, List.length_append, List.length_singleton]
        congr 1
        omega

theorem capacity_step (c : Channel E) (s : Step E) : (c.step s).capacity = c.capacity := by
  cases s with
  | subscribe | leave => rfl
  | send e =>
    simp only [Channel.step, send]
    split <;> rfl
  | receive k =>
    simp only [Channel.step, receive]
    repeat' split
    all_goals rfl

/-- A place depends on where the subscriber is and on the history. -/
theorem Stands.frame {d : Channel E} (h : Stands c history n box)
    (hlen : c.readers.length ≤ d.readers.length) (hpos : d.position? n = c.position? n) :
    Stands d history n box := by
  match box, h with
  | some _, ⟨p, hp, hrest⟩ => exact ⟨p, hpos.trans hp, hrest⟩
  | none, h => exact ⟨Nat.lt_of_lt_of_le h.1 hlen, hpos.trans h.2⟩

/-- A look of another subscriber moves nobody else. -/
theorem position?_receive {k : Nat} (hne : k ≠ n) :
    (c.step (.receive k)).position? n = c.position? n ∧
      (c.step (.receive k)).readers.length = c.readers.length := by
  simp only [step, receive]
  cases hk : c.position? k with
  | none => exact ⟨rfl, rfl⟩
  | some p =>
    have hlt := lt_of_position? hk
    have hmoved (q : Nat) :
        position? { c with readers := c.readers.set k (some q) } n = c.position? n := by
      rw [position?_moved c hlt, if_neg hne]
    simp only
    repeat' split
    all_goals simp [hmoved]

/-- In one step a subscriber is told what its mailbox tells, and stands where the mailbox says. -/
theorem Stands.step (hk : Keeps c history) (hs : Stands c history n box) (s : Step E) :
    c.tells n s = (Mailbox.run c.capacity box (s.concern? n).toList).1 ∧
      Stands (c.step s) (record c history s) n
        (Mailbox.run c.capacity box (s.concern? n).toList).2 := by
  cases s with
  | subscribe =>
    refine ⟨rfl, hs.frame ?_ ?_⟩
    · simp [Channel.step, Channel.subscribe]
    · simp [Channel.step, Channel.subscribe, position?, List.getElem?_append_left hs.lt]
  | leave k =>
    by_cases hkn : k = n
    · subst hkn
      have hgone : Stands (c.step (.leave k)) (record c history (.leave k)) k none := by
        refine ⟨by simpa [Channel.step, Channel.leave] using hs.lt, ?_⟩
        rw [Channel.step, Channel.leave, position?_moved c hs.lt, if_pos rfl]
      cases box <;> simpa [Step.concern?, tells, Mailbox.run, Mailbox.step] using hgone
    · simp only [Step.concern?, hkn, if_false, Option.toList_none, Mailbox.run]
      refine ⟨rfl, hs.frame ?_ ?_⟩
      · simp [Channel.step, Channel.leave]
      · by_cases hlt : k < c.readers.length
        · rw [Channel.step, Channel.leave, position?_moved c hlt, if_neg hkn]
        · simp [Channel.step, Channel.leave, List.set_eq_of_length_le (Nat.le_of_not_lt hlt)]
  | receive k =>
    by_cases hkn : k = n
    · subst hkn
      simp only [Step.concern?, tells, if_true, Option.toList_some]
      match box, hs with
      | none, hs =>
        have hnone : c.receive k = none := by simp only [receive, hs.2]
        simp only [hnone, Channel.step, Mailbox.run_none]
        exact ⟨rfl, hs⟩
      | some _, ⟨p, hp, hle, hletters⟩ =>
        subst hletters
        obtain ⟨q, hq, hqle, hrest⟩ := receive_eq_look hk hp hle
        simp only [hq, Channel.step, Mailbox.run, Mailbox.step, List.append_nil, hrest]
        refine ⟨rfl, q, ?_, hqle, rfl⟩
        simp [position?_moved c (lt_of_position? hp)]
    · have hframe := position?_receive (c := c) hkn
      simp only [Step.concern?, tells, hkn, if_false, Option.toList_none, Mailbox.run, true_and]
      exact hs.frame (Nat.le_of_eq hframe.2.symm) hframe.1
  | send e =>
    match box, hs with
    | none, hs =>
      simp only [Mailbox.run_none]
      refine ⟨rfl, ?_⟩
      simp only [Channel.step, send]
      split <;> exact hs
    | some _, ⟨p, hp, hle, hletters⟩ =>
      -- a subscriber who is still there hears everything
      have hlive := subscriberCount_ne_zero hp
      refine ⟨rfl, p, ?_, ?_, ?_⟩
      · simpa [Channel.step, send, hlive, position?] using hp
      · simpa [record, hlive] using Nat.le_succ_of_le hle
      · simp [record, hlive, hletters, List.drop_append_of_le_length hle]

/-- **For a subscriber, a shared channel is a mailbox of its own.** -/
theorem told_eq_run (hk : Keeps c history) (hs : Stands c history n box) (steps : List (Step E)) :
    told n c steps = (Mailbox.run c.capacity box (concerns n steps)).1 ∧
      ∃ later, Keeps (c.after steps) later ∧
        Stands (c.after steps) later n (Mailbox.run c.capacity box (concerns n steps)).2 := by
  induction steps generalizing c history box with
  | nil => exact ⟨rfl, history, hk, hs⟩
  | cons s steps ih =>
    obtain ⟨htells, hstands⟩ := hs.step hk s
    obtain ⟨htold, later, hlater⟩ := ih (hk.step s) hstands
    have hsplit : concerns n (s :: steps) = (s.concern? n).toList ++ concerns n steps := by
      rw [concerns, List.filterMap_cons]
      cases s.concern? n <;> rfl
    rw [capacity_step] at htold hlater
    rw [hsplit, Mailbox.run_append]
    refine ⟨?_, later, hlater⟩
    rw [told, htells, htold]

theorem keeps_after (hk : Keeps c history) (steps : List (Step E)) :
    ∃ later, Keeps (c.after steps) later := by
  induction steps generalizing c history with
  | nil => exact ⟨history, hk⟩
  | cons s steps ih => exact ih (hk.step s)

@[simp] theorem capacity_after (c : Channel E) (steps : List (Step E)) :
    (c.after steps).capacity = c.capacity := by
  induction steps generalizing c with
  | nil => rfl
  | cons s steps ih => exact (ih (c.step s)).trans (capacity_step c s)

/-- What is still unread is the letters of the mailbox: too many of them are missed. -/
theorem Stands.unread (hk : Keeps c history) (hs : Stands c history n box) :
    c.missed n = box.letters.length - c.capacity ∧
      c.waiting n = box.letters.drop (box.letters.length - c.capacity) := by
  match box, hs with
  | none, hs => simp [missed, waiting, hs.2, Mailbox.letters]
  | some _, ⟨p, hp, hle, hletters⟩ =>
    subst hletters
    simp only [missed, waiting, hp, hk.dropped_eq, Mailbox.letters, Option.map_some,
      Option.getD_some, List.length_drop, hk.kept_eq, List.drop_drop]
    refine ⟨?_, ?_⟩
    · omega
    · congr 1
      omega

theorem Stands.backlog_eq (hk : Keeps c history) (hs : Stands c history n box) :
    c.backlog n = box.letters.length := by
  rw [backlog, (hs.unread hk).1, (hs.unread hk).2, List.length_drop]
  omega

end Places

/-! ## The account of a subscriber -/

/-- What a subscriber can rely on, given what it is told in the course of some steps. -/
structure Accounted (c : Channel E) (n : Nat) (steps : List (Step E)) : Prop where
  /-- It is given what was sent, in order, and nothing twice. -/
  given : (events (told n c steps)).Sublist (sends steps)
  /-- While it stays, what was sent is given to it, or told to be lost, or not looked at yet. -/
  count : .leave n ∉ steps →
    (events (told n c steps)).length + lost (told n c steps) + (c.after steps).backlog n =
      (sends steps).length
  /-- If it never falls behind by more than the ring, it is given all but what still waits. -/
  lossless : (∀ k, (c.after (steps.take k)).backlog n ≤ c.capacity) →
    lost (told n c steps) = 0 ∧
      (.leave n ∉ steps → events (told n c steps) ++ (c.after steps).waiting n = sends steps)
  /-- Once it has left it is told nothing. -/
  silent : ∀ later, told n c (steps ++ .leave n :: later) = told n c steps

section Account

variable {c : Channel E} {history : List E} {n : Nat}

theorem posted_concerns (n : Nat) (steps : List (Step E)) :
    Mailbox.posted (concerns n steps) = sends steps := by
  rw [Mailbox.posted, concerns, List.filterMap_filterMap, sends]
  congr 1
  funext s
  cases s with
  | subscribe | send => rfl
  | receive k | leave k =>
    simp only [Step.concern?]
    split <;> rfl

theorem leave_mem_concerns {steps : List (Step E)} (h : .leave n ∉ steps) :
    Concern.leave ∉ concerns n steps := by
  intro hmem
  obtain ⟨s, hs, hleave⟩ := List.mem_filterMap.mp hmem
  cases s with
  | subscribe | send => cases hleave
  | receive k =>
    simp only [Step.concern?] at hleave
    split at hleave <;> cases hleave
  | leave k =>
    simp only [Step.concern?] at hleave
    split at hleave
    case isTrue hk => exact h (hk ▸ hs)
    case isFalse => cases hleave

/-- Whoever comes finds an empty mailbox. -/
theorem newcomer_stands (hk : Keeps c history) :
    Keeps c.subscribe history ∧ Stands c.subscribe history c.readers.length (some []) := by
  refine ⟨⟨hk.total_eq, hk.kept_eq⟩, c.total, ?_, ?_, ?_⟩
  · simp [subscribe, position?]
  · exact Nat.le_of_eq hk.total_eq
  · rw [hk.total_eq, List.drop_length]

/-- No more is told to be lost than is missed. -/
theorem lost_tells_le (n : Nat) (c : Channel E) (s : Step E) :
    lost (c.tells n s) ≤ c.missed n := by
  cases s with
  | subscribe | send | leave => exact Nat.zero_le _
  | receive k =>
    simp only [tells]
    split
    case isFalse => exact Nat.zero_le _
    case isTrue =>
      simp only [receive, missed]
      cases c.position? n with
      | none => exact Nat.zero_le _
      | some p =>
        simp only
        repeat' split
        all_goals simp [lag]

theorem lost_told_eq_zero {steps : List (Step E)}
    (h : ∀ k, (c.after (steps.take k)).missed n = 0) : lost (told n c steps) = 0 := by
  induction steps generalizing c with
  | nil => rfl
  | cons s steps ih =>
    have hnow : lost (c.tells n s) = 0 := by
      have hle := lost_tells_le n c s
      rw [show c.missed n = 0 from h 0] at hle
      exact Nat.le_zero.mp hle
    have hlater : lost (told n (c.step s) steps) = 0 := ih fun k => h (k + 1)
    rw [told, lost_append, hnow, hlater]

/-- A subscriber with an empty mailbox can account for all that is sent from now on. -/
theorem Stands.accounted (hk : Keeps c history) (hs : Stands c history n (some []))
    (steps : List (Step E)) : Accounted c n steps := by
  have hend (steps : List (Step E)) := told_eq_run hk hs steps
  have hsub : (events (told n c steps) ++
      (Mailbox.run c.capacity (some []) (concerns n steps)).2.letters).Sublist (sends steps) := by
    have h := Mailbox.run_sublist c.capacity (some []) (concerns n steps)
    rwa [posted_concerns, ← (hend steps).1] at h
  have hcount (hstay : .leave n ∉ steps) : (events (told n c steps)).length +
      lost (told n c steps) +
        (Mailbox.run c.capacity (some []) (concerns n steps)).2.letters.length =
      (sends steps).length := by
    have h := Mailbox.run_count c.capacity [] (concerns n steps)
      (leave_mem_concerns hstay)
    rwa [posted_concerns, ← (hend steps).1, List.length_nil, Nat.zero_add] at h
  obtain ⟨later, hkeeps, hstands⟩ := (hend steps).2
  refine ⟨(List.sublist_append_left _ _).trans hsub, fun hstay => ?_, fun hfits => ?_, ?_⟩
  · rw [hstands.backlog_eq hkeeps]
    exact hcount hstay
  · have hnever (k : Nat) : (c.after (steps.take k)).missed n = 0 := by
      obtain ⟨then', hkeeps, hstands⟩ := (hend (steps.take k)).2
      have hle := hfits k
      rw [hstands.backlog_eq hkeeps] at hle
      rw [(hstands.unread hkeeps).1, capacity_after]
      exact Nat.sub_eq_zero_of_le hle
    have hlost := lost_told_eq_zero hnever
    refine ⟨hlost, fun hstay => ?_⟩
    have hwaiting : (c.after steps).waiting n =
        (Mailbox.run c.capacity (some []) (concerns n steps)).2.letters := by
      have hmissed := hnever steps.length
      rw [List.take_length, (hstands.unread hkeeps).1] at hmissed
      rw [(hstands.unread hkeeps).2, hmissed, List.drop_zero]
    rw [hwaiting]
    refine hsub.eq_of_length ?_
    rw [← hcount hstay, hlost, List.length_append, Nat.add_zero]
  · intro rest
    have hleave : concerns n (steps ++ .leave n :: rest) =
        concerns n steps ++ .leave :: concerns n rest := by
      simp [concerns, List.filterMap_append, Step.concern?]
    rw [(hend _).1, (hend steps).1, hleave, Mailbox.run_append]
    cases (Mailbox.run c.capacity (some []) (concerns n steps)).2 <;>
      simp [Mailbox.run, Mailbox.step]

end Account

/-! ## Opening a channel -/

section Opening

variable {c : Channel E}

theorem open?_eq_some {atLeast : Nat} (h : atLeast ≤ maxCapacity) :
    ∃ c : Channel E, open? atLeast = some c :=
  ⟨_, if_neg (Nat.not_lt.mpr h)⟩

theorem open?_eq_none {atLeast : Nat} (h : maxCapacity < atLeast) :
    (open? atLeast : Option (Channel E)) = none := if_pos h

/-- A channel can be opened for every capacity up to the largest, and for no other. -/
theorem exists_open?_iff (atLeast : Nat) :
    (∃ c : Channel E, open? atLeast = some c) ↔ atLeast ≤ maxCapacity := by
  refine ⟨?_, open?_eq_some⟩
  rintro ⟨c, hc⟩
  by_contra hlarge
  rw [open?_eq_none (Nat.lt_of_not_le hlarge)] at hc
  cases hc

/-- A channel that is opened has room for what was asked for, rounded up to a power of two. -/
theorem open?_capacity {atLeast : Nat} (h : open? atLeast = some c) :
    c.capacity = (max atLeast 1).nextPowerOfTwo := by
  simp only [open?] at h
  split at h <;> cases h
  rfl

theorem open?_keeps {atLeast : Nat} (h : open? atLeast = some c) : Keeps c [] := by
  simp only [open?] at h
  split at h
  · cases h
  · cases h
    exact ⟨rfl, List.drop_nil.symm⟩

end Opening

end Channel

end Gatehouse
