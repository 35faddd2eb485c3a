import Gatehouse.Json.Printer
import Gatehouse.Notify.Channel
import Gatehouse.Notify.Event

/-!
# The stream of events

Events as a subscriber receives them: one line that names the change, one line of JSON, and an empty
line. JSON text has no line ends, so an event is never mistaken for two.
-/

namespace Gatehouse.Http.EventStream

/-- The text of an event. -/
def frame (e : Event Company) : String :=
  s!"event: {e.change.name}\ndata: {e.answerJson.text}\n\n"

/-- Takes all events that are ready for a subscriber, at most so many. Events that were lost are
passed over. -/
def drain (n : Nat) : (most : Nat) → Channel (Event Company) →
    List String × Channel (Event Company)
  | 0, c => ([], c)
  | k + 1, c =>
    match c.receive n with
    | some (.event e, c) =>
      let (frames, c) := drain n k c
      (frame e :: frames, c)
    | some (.lagged _, c) => drain n k c
    | some (.nothing, _) | none => ([], c)

/-- The texts of all events that are ready for a subscriber. Besides the events that are kept there
may be one gap to pass over. -/
def ready (n : Nat) (c : Channel (Event Company)) : List String × Channel (Event Company) :=
  drain n (c.kept.length + 1) c

end Gatehouse.Http.EventStream
