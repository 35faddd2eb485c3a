import Gatehouse.Log

/-!
# The channel of events

Events for subscribers who read at their own pace. The channel keeps a fixed number of the newest
events. A subscriber who falls further behind is told how many events it has lost and goes on with
the oldest one kept; it never holds up the sender or another subscriber.
-/

namespace Gatehouse

/-- A channel: the newest events, oldest first, how many were sent in all, and where each
subscriber stands, unless it has left. -/
structure Channel (E : Type) where
  capacity : Nat
  kept : List E
  total : Nat
  readers : List (Option Nat)

/-- What a subscriber finds when it looks for an event. -/
inductive Received (E : Type) where
  | event (e : E)
  | nothing
  | lagged (lost : Nat)

namespace Channel

variable {E : Type}

/-- The largest capacity that can be asked for. -/
def maxCapacity : Nat := 0x7FFFFFFFFFFFFFFF

/-- A channel that keeps at least as many events as asked for, and at least one: the number is
rounded up to a power of two. There is none for a number that is too large. -/
def open? (atLeast : Nat) : Option (Channel E) :=
  if maxCapacity < atLeast then none else some ⟨(max atLeast 1).nextPowerOfTwo, [], 0, []⟩

/-- Adds a subscriber, who will see what is sent from now on. Subscribers are numbered as they
come. -/
def subscribe (c : Channel E) : Channel E := { c with readers := c.readers ++ [some c.total] }

/-- Where a subscriber stands. -/
def position? (c : Channel E) (n : Nat) : Option Nat := c.readers[n]?.join

/-- Lets a subscriber go. -/
def leave (c : Channel E) (n : Nat) : Channel E := { c with readers := c.readers.set n none }

/-- The number of subscribers. -/
def subscriberCount (c : Channel E) : Nat := (c.readers.filter Option.isSome).length

/-- The number of events that are no longer kept. -/
def dropped (c : Channel E) : Nat := c.total - c.kept.length

/-- Sends an event. Without subscribers it goes nowhere. -/
def send (c : Channel E) (e : E) : Channel E :=
  if c.subscriberCount = 0 then c
  else
    let all := c.kept ++ [e]
    { c with kept := all.drop (all.length - c.capacity), total := c.total + 1 }

/-- What is logged about an event that is sent. -/
def sentEntry (c : Channel E) : Log.Entry :=
  if c.subscriberCount = 0 then Log.trace "no subscribers; event dropped" []
  else Log.trace "event broadcast" [("receivers", toString c.subscriberCount)]

/-- The next event of a subscriber, without waiting; none if there is no such subscriber. -/
def receive (c : Channel E) (n : Nat) : Option (Received E × Channel E) :=
  match c.position? n with
  | none => none
  | some p =>
    let moveTo (q : Nat) : Channel E := { c with readers := c.readers.set n (some q) }
    if p < c.dropped then some (.lagged (c.dropped - p), moveTo c.dropped)
    else match c.kept[p - c.dropped]? with
      | some e => some (.event e, moveTo (p + 1))
      | none => some (.nothing, c)

end Channel

end Gatehouse
