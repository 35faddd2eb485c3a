import Gatehouse.Proofs.Notify.Ring
import Gatehouse.Http.EventStream
import Gatehouse.Rehearsal.World

/-!
# What streams of events deliver

A stream belongs to a subscriber of the channel. Who reads it takes everything that is ready, which
is as many looks of the subscriber as it takes until nothing is left: a gap is passed over, and the
reading goes on behind it. So the account of a subscriber is one of its stream too.

A history of streams is a list of `Step`s in which a look stands for a read: `afterReads` is the
channel after it, and `delivered` the texts that a stream has given.
-/

namespace Gatehouse.Http.EventStream

open Channel Received

/-- The channel after a step of a history of streams. -/
def read (c : Channel (Event Company)) : Step (Event Company) → Channel (Event Company)
  | .receive n => (ready n c).2
  | s => c.step s

/-- The channel after a history of streams. -/
def afterReads (c : Channel (Event Company)) (turns : List (Step (Event Company))) :
    Channel (Event Company) :=
  turns.foldl read c

/-- The texts that a stream has given in the course of a history. -/
def delivered (n : Nat) : Channel (Event Company) → List (Step (Event Company)) → List String
  | _, [] => []
  | c, s :: turns =>
    (match s with
      | .receive k => if k = n then (ready n c).1 else []
      | _ => []) ++ delivered n (read c s) turns

section Reading

variable {c : Channel (Event Company)} {history : List (Event Company)} {n : Nat}
  {box : Mailbox (Event Company)}

/-! ## A read is some looks -/

/-- So many looks of a subscriber. -/
def looks (n k : Nat) : List (Step (Event Company)) := List.replicate k (.receive n)

theorem told_looks_of_ne {m : Nat} (h : m ≠ n) (k : Nat) : told n c (looks m k) = [] := by
  induction k generalizing c with
  | zero => rfl
  | succ k ih =>
    show c.tells n (.receive m) ++ told n (c.step (.receive m)) (looks m k) = []
    rw [ih, tells, if_neg h, List.append_nil]

theorem sends_looks (n k : Nat) : sends (looks n k) = [] := by
  rw [looks, sends, List.filterMap_replicate_of_none rfl]

theorem drain_eq_told (n most : Nat) (c : Channel (Event Company)) :
    ∃ k, drain n most c =
      ((events (told n c (looks n k))).map frame, c.after (looks n k)) := by
  induction most generalizing c with
  | zero => exact ⟨0, rfl⟩
  | succ most ih =>
    have hlook (k : Nat) {found : Received (Event Company)} {d : Channel (Event Company)}
        (h : c.receive n = some (found, d)) :
        told n c (looks n (k + 1)) = found :: told n d (looks n k) ∧
          c.after (looks n (k + 1)) = d.after (looks n k) := by
      have hstep : c.step (.receive n) = d := by simp [Channel.step, h]
      refine ⟨?_, ?_⟩
      · show c.tells n (.receive n) ++ told n (c.step (.receive n)) (looks n k) = _
        rw [hstep, tells, if_pos rfl, h]
        rfl
      · show (c.step (.receive n)).after (looks n k) = _
        rw [hstep]
    simp only [drain]
    cases h : c.receive n with
    | none => exact ⟨0, rfl⟩
    | some answer =>
      obtain ⟨found, d⟩ := answer
      obtain ⟨k, hk⟩ := ih d
      cases found with
      | nothing => exact ⟨0, rfl⟩
      | lagged lost =>
        refine ⟨k + 1, ?_⟩
        rw [(hlook k h).1, (hlook k h).2]
        exact hk
      | event e =>
        refine ⟨k + 1, ?_⟩
        rw [(hlook k h).1, (hlook k h).2]
        show (frame e :: (drain n most d).1, (drain n most d).2) =
          ((e :: events (told n d (looks n k))).map frame, _)
        rw [hk]
        rfl

/-- A subscriber who stands behind some letters finds the oldest, or hears of a gap. -/
theorem receive_of_stands {letters : List (Event Company)} (hk : Keeps c history)
    (hs : Stands c history n (some letters)) :
    c.receive n = some ((Mailbox.look c.capacity letters).1, c.step (.receive n)) ∧
      Stands (c.step (.receive n)) history n (some (Mailbox.look c.capacity letters).2) := by
  have hstep := hs.step hk (.receive n)
  simp only [Step.concern?, if_true, Option.toList_some, Mailbox.run, Mailbox.step, tells,
    List.append_nil] at hstep
  refine ⟨?_, hstep.2⟩
  cases h : c.receive n with
  | none => simp [h] at hstep
  | some found =>
    simp only [h, Option.map_some, Option.toList_some, List.singleton_inj] at hstep
    rw [← hstep.1]
    simp [Channel.step, h]

/-- Enough looks leave nothing: one for each event the ring has room for, and one for a gap. -/
theorem drain_backlog {most : Nat} (hk : Keeps c history) (hs : Stands c history n box)
    (hmost : min box.letters.length (c.capacity + 1) ≤ most) :
    (drain n most c).2.backlog n = 0 := by
  induction most generalizing c box with
  | zero =>
    rw [drain, hs.backlog_eq hk]
    omega
  | succ most ih =>
    match box, hs with
    | none, hs =>
      have hnone : c.receive n = none := by simp only [receive, hs.2]
      have hstands : Stands c history n none := hs
      rw [drain, hnone, hstands.backlog_eq hk]
      rfl
    | some letters, hs =>
      obtain ⟨hlook, hnext⟩ := receive_of_stands hk hs
      have hcapacity := capacity_step c (.receive n)
      have hrest := ih (hk.step (.receive n)) hnext
      rw [drain, hlook]
      rw [hcapacity] at hrest
      unfold Mailbox.look at hrest ⊢
      simp only [Mailbox.letters, Option.getD_some] at hmost hrest
      by_cases hlag : c.capacity < letters.length
      · simp only [hlag, if_true, List.length_drop] at hrest ⊢
        exact hrest (by omega)
      · simp only [hlag, if_false] at hrest ⊢
        cases letters with
        | nil => exact hs.backlog_eq hk
        | cons e rest =>
          simp only [List.length_cons] at hlag hmost hrest ⊢
          exact hrest (by omega)

/-- A read leaves nothing behind, whether or not there was a gap. -/
theorem ready_backlog (hk : Keeps c history) (hs : Stands c history n box) :
    (ready n c).2.backlog n = 0 := by
  refine drain_backlog hk hs ?_
  have hkept : c.kept.length = history.length - (history.length - c.capacity) := by
    rw [hk.kept_eq, List.length_drop]
  have hletters : box.letters.length ≤ history.length := by
    match box, hs with
    | none, _ => exact Nat.zero_le _
    | some _, ⟨p, _, _, hletters⟩ =>
      rw [hletters]
      exact (List.drop_sublist p history).length_le
  omega

/-! ## Histories of streams -/

/-- A history of streams amounts to steps of their subscribers: the same is sent, the same
subscribers leave, the channel is the same afterwards, and what each stream gives is the texts of
what its subscriber is given. -/
structure AmountsTo (c : Channel (Event Company)) (turns steps : List (Step (Event Company))) :
    Prop where
  sends_eq : sends steps = sends turns
  leave_iff : ∀ n, .leave n ∈ steps ↔ .leave n ∈ turns
  after_eq : afterReads c turns = c.after steps
  given : ∀ n, delivered n c turns = (events (told n c steps)).map frame

/-- A turn that is no read is a step, and gives nothing to a stream. -/
theorem AmountsTo.cons {s : Step (Event Company)} {turns steps : List (Step (Event Company))}
    (h : AmountsTo (read c s) turns steps) (hs : ∀ n, s ≠ .receive n) :
    AmountsTo c (s :: turns) (s :: steps) := by
  have hread : read c s = c.step s := by
    cases s with
    | receive n => exact absurd rfl (hs n)
    | subscribe | send | leave => rfl
  have hsends : sends (s :: steps) = sends [s] ++ sends steps := sends_append [s] steps
  refine ⟨?_, fun n => ?_, ?_, fun n => ?_⟩
  · rw [hsends, h.sends_eq, ← sends_append]
    rfl
  · rw [List.mem_cons, List.mem_cons, h.leave_iff n]
  · show afterReads (read c s) turns = (c.step s).after steps
    rw [h.after_eq, hread]
  · have hgiven := h.given n
    rw [hread] at hgiven
    cases s with
    | receive k => exact absurd rfl (hs k)
    | subscribe | send | leave => exact hgiven

/-- A read is some looks. -/
theorem AmountsTo.cons_read {k j : Nat} {turns steps : List (Step (Event Company))}
    (h : AmountsTo (read c (.receive k)) turns steps)
    (hj : ready k c = ((events (told k c (looks k j))).map frame, c.after (looks k j))) :
    AmountsTo c (.receive k :: turns) (looks k j ++ steps) := by
  have hread : read c (.receive k) = c.after (looks k j) := by rw [read, hj]
  refine ⟨?_, fun n => ?_, ?_, fun n => ?_⟩
  · rw [sends_append, sends_looks, h.sends_eq]
    rfl
  · rw [List.mem_append, h.leave_iff n]
    simp [looks]
  · rw [after_append, ← hread, ← h.after_eq]
    rfl
  · rw [told_append, events_append, List.map_append, ← hread, ← h.given n, delivered]
    congr 1
    by_cases hkn : k = n
    · subst hkn
      simp only [if_true, hj]
    · rw [told_looks_of_ne hkn]
      simp [hkn]

/-- Every history of streams amounts to steps of their subscribers, with as many looks for each read
as it takes. -/
theorem exists_amountsTo (c : Channel (Event Company)) (turns : List (Step (Event Company))) :
    ∃ steps, AmountsTo c turns steps := by
  induction turns generalizing c with
  | nil => exact ⟨[], rfl, fun _ => Iff.rfl, rfl, fun _ => rfl⟩
  | cons s turns ih =>
    obtain ⟨steps, h⟩ := ih (read c s)
    cases s with
    | subscribe | send | leave => exact ⟨_, h.cons fun _ => by simp⟩
    | receive k =>
      obtain ⟨j, hj⟩ := drain_eq_told k (c.kept.length + 1) c
      exact ⟨_, h.cons_read hj⟩

end Reading

/-! ## The account of a stream -/

/-- A channel that keeps four events. -/
theorem open?_three : open? 3 = some (⟨4, [], 0, []⟩ : Channel (Event Company)) := by
  have hsize : (max 3 1).nextPowerOfTwo = 4 := by decide +kernel
  rw [open?, if_neg (by decide), hsize]

/-- The place of whoever subscribes next, after any steps from the opening on. -/
theorem newcomer_after_open {capacity : Nat} {c₀ : Channel (Event Company)}
    (h : open? capacity = some c₀) (before : List (Step (Event Company))) :
    ∃ history, Keeps (c₀.after before).subscribe history ∧
      Stands (c₀.after before).subscribe history (c₀.after before).readers.length (some []) := by
  obtain ⟨history, hk⟩ := keeps_after (open?_keeps h) before
  exact ⟨history, newcomer_stands hk⟩

/-- **Whoever subscribes can account for every event sent from then on.** A channel, of any capacity
up to the largest there is, keeps as many events as asked for, at least one, rounded up to a power
of two. After any steps, a new subscriber is given what is sent from then on, in order and nothing
twice; together with what it is told to have lost and what it has not looked at, this is all that
was sent; and it loses nothing as long as it does not fall behind by more than the ring. What it is
told depends on what is sent and on what it does itself, and on nothing else. Sending always
succeeds. The stream of a subscriber gives the texts of exactly the events the subscriber is given,
and a read leaves nothing behind, also where there was a gap. -/
theorem subscribers_account (capacity : Nat) :
    ((∃ c₀ : Channel (Event Company), open? capacity = some c₀) ↔ capacity ≤ maxCapacity) ∧
    ∀ c₀ : Channel (Event Company), open? capacity = some c₀ →
      c₀.capacity = (max capacity 1).nextPowerOfTwo ∧
      (∀ before steps,
        Accounted (c₀.after before).subscribe (c₀.after before).readers.length steps) ∧
      (∀ before steps before' steps',
        concerns (c₀.after before).readers.length steps =
          concerns (c₀.after before').readers.length steps' →
        told (c₀.after before).readers.length (c₀.after before).subscribe steps =
          told (c₀.after before').readers.length (c₀.after before').subscribe steps') ∧
      (∀ mishaps e (w : Rehearsal.World), ∃ entry,
        (Rehearsal.serve mishaps e .channel).run w =
          (.ok (.ok ()), { w with logs := entry :: w.logs, channel := w.channel.send e })) ∧
      ∀ past turns, ∃ steps,
        let c := afterReads c₀ past
        Accounted c.subscribe c.readers.length steps ∧ AmountsTo c.subscribe turns steps ∧
        (afterReads c.subscribe (turns ++ [.receive c.readers.length])).backlog
          c.readers.length = 0 := by
  refine ⟨exists_open?_iff capacity, fun c₀ hopen => ⟨open?_capacity hopen, fun before steps => ?_,
    fun before steps before' steps' hsame => ?_, fun mishaps e w => ⟨w.channel.sentEntry, rfl⟩,
    fun past turns => ?_⟩⟩
  · obtain ⟨history, hk, hs⟩ := newcomer_after_open hopen before
    exact hs.accounted hk steps
  · obtain ⟨history, hk, hs⟩ := newcomer_after_open hopen before
    obtain ⟨history', hk', hs'⟩ := newcomer_after_open hopen before'
    have hring : (c₀.after before).subscribe.capacity = (c₀.after before').subscribe.capacity :=
      (capacity_after c₀ before).trans (capacity_after c₀ before').symm
    rw [(told_eq_run hk hs steps).1, (told_eq_run hk' hs' steps').1, hsame, hring]
  · -- a past of streams is a past of steps, so the first part speaks of its newcomers too
    obtain ⟨before, hbefore⟩ := exists_amountsTo c₀ past
    obtain ⟨history, hk, hs⟩ := newcomer_after_open hopen before
    rw [hbefore.after_eq]
    obtain ⟨steps, hsteps⟩ := exists_amountsTo (c₀.after before).subscribe turns
    refine ⟨steps, hs.accounted hk steps, hsteps, ?_⟩
    obtain ⟨later, hk', hs'⟩ := (told_eq_run hk hs steps).2
    have hread : afterReads (c₀.after before).subscribe
        (turns ++ [.receive (c₀.after before).readers.length]) =
        (ready (c₀.after before).readers.length
          (afterReads (c₀.after before).subscribe turns)).2 := by
      simp only [afterReads, List.foldl_append]
      rfl
    rw [hread, hsteps.after_eq]
    exact ready_backlog hk' hs'

/-- A subscriber who sleeps through six events finds that the first two are lost, and its stream
goes on with the four others. -/
theorem subscribers_account_late :
    ∃ c₀ : Channel (Event Company), open? 3 = some c₀ ∧ c₀.capacity = 4 ∧
      let e : Event Company := ⟨.created, default⟩
      let sleep := List.replicate 6 (.send e)
      told 0 c₀.subscribe (sleep ++ [.receive 0, .receive 0]) = [.lagged 2, .event e] ∧
      Accounted c₀.subscribe 0 (sleep ++ [.receive 0, .receive 0]) ∧
      delivered 0 c₀.subscribe (sleep ++ [.receive 0]) = List.replicate 4 (frame e) ∧
      (afterReads c₀.subscribe (sleep ++ [.receive 0])).backlog 0 = 0 := by
  obtain ⟨-, haccount, -, -, hstreams⟩ := (subscribers_account 3).2 _ open?_three
  obtain ⟨_, -, -, hread⟩ := hstreams [] (List.replicate 6 (.send ⟨.created, default⟩))
  exact ⟨_, open?_three, rfl, rfl, haccount [] _, rfl, hread⟩

end Gatehouse.Http.EventStream
