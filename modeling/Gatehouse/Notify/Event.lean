import Gatehouse.Company.Codec

/-!
# Events

A completed change, as published to sinks and subscribers: what happened, and the resource as it
was stored, or as it was before it was deleted.
-/

namespace Gatehouse

/-- What happened to a resource. -/
inductive Change where
  | created
  | updated
  | deleted
  deriving DecidableEq

namespace Change

/-- The name of a change. -/
def name : Change → String
  | created => "created"
  | updated => "updated"
  | deleted => "deleted"

/-- All changes. -/
def all : List Change := [created, updated, deleted]

/-- Reads a change. -/
def decode : Json.Decoder Change := Json.choice (all.map fun c => (c.name, c))

end Change

/-- A completed change of a resource. -/
structure Event (E : Type) where
  change : Change
  resource : E

namespace Event

/-- The written form, given that of the resource. -/
def toJson (encode : E → Json) (e : Event E) : Json :=
  .obj [("operation", .str e.change.name), ("resource", encode e.resource)]

/-- How an event is read, given how its resource is. -/
def form (dec : Json.Decoder E) : Json.Form (Event E) :=
  mk <$> .required "operation" Change.decode <*> .required "resource" dec

/-- An event as subscribers see it. -/
def answerJson (e : Event Company) : Json := e.toJson Company.answerJson

/-- Reads an event as subscribers see it. -/
def decodeAnswer : Json.Decoder (Event Company) :=
  (form Company.decodeAnswer).decode "ResourceEvent" .pass

/-- An event as the log shows it. -/
def logJson (e : Event Company) : Json := e.toJson Company.toJson

end Event

end Gatehouse
