import Gatehouse.Notify.Event
import Gatehouse.Json.Printer
import Gatehouse.Log

/-!
# Sinks

Where events go. A sink is a single one or a fan-out over others; a fan-out tries all of its sinks
in order, whatever becomes of the earlier ones, and reports their failures together.
-/

namespace Gatehouse

/-- Why an event is not delivered. -/
inductive NotifyError where
  | encoding (reason : String)
  | delivery (reason : String)
  deriving DecidableEq

/-- What a delivery error says. -/
def NotifyError.message : NotifyError → String
  | encoding reason => s!"failed to encode event: {reason}"
  | delivery reason => s!"failed to deliver event: {reason}"

/-- The outcome of sending an event. -/
abbrev Delivery := Except NotifyError Unit

/-- Sinks over single sinks of some kind. -/
inductive Sink (L : Type) where
  | single (l : L)
  | fanout (sinks : List (Sink L))

namespace Sink

variable {L : Type} {m : Type → Type} [Monad m]

/-- The outcome of a fan-out: fine if nothing failed, else all failures in one. -/
def together (failures : List NotifyError) : Delivery :=
  if failures.isEmpty then .ok ()
  else .error (.delivery ("; ".intercalate (failures.map NotifyError.message)))

mutual

/-- Sends to a sink, given how single sinks are served. -/
def send (serve : L → m Delivery) : Sink L → m Delivery
  | single l => serve l
  | fanout sinks => do
    let failures ← failuresOf serve sinks
    pure (together failures)

/-- Sends to each sink in turn and collects what fails. -/
def failuresOf (serve : L → m Delivery) : List (Sink L) → m (List NotifyError)
  | [] => pure []
  | s :: ss => do
    let outcome ← send serve s
    let rest ← failuresOf serve ss
    match outcome with
    | .ok () => pure rest
    | .error e => pure (e :: rest)

end

end Sink

namespace LogSink

/-- What is said about an event that has no written form. -/
def unprintable : String :=
  "The offset_hour component cannot be formatted into the requested format."

/-- The sink that writes events to the log, each as one line of JSON: the outcome, and the entry if
the event can be written. -/
def send (encode : E → Option Json) (e : Event E) : Delivery × List Log.Entry :=
  match encode e.resource with
  | none => (.error (.encoding unprintable), [])
  | some _ =>
    let line := (e.toJson fun r => (encode r).getD .null).text
    (.ok (), [Log.info "resource event" [("operation", e.change.name), ("event", line)]])

end LogSink

end Gatehouse
