import Gatehouse.Gate.Call
import Gatehouse.Policy.Evaluator

/-!
# The pipelines of the gate

Every request goes through the same short-circuiting steps: who is the caller, may the caller ask
for this operation at all, what is the input, may the caller ask for it on this target, and only
then the change and the news of it. Before each step the request may be found cancelled. Malformed
input is reported only after the first two steps, so that a bad credential or a coarse denial wins
over it.
-/

namespace Gatehouse

/-- What a transport hands over besides the input: the presented credential. -/
structure Caller where
  token : Option String

namespace Caller

/-- A caller without a credential. -/
def anonymous : Caller := ⟨none⟩

/-- A caller as debug texts show it, which hide the credential, with the state of the request. -/
def describe (c : Caller) (cancelled : Bool) : String :=
  let token := if c.token.isSome then "Some(" ++ Text.quoted "<redacted>" ++ ")" else "None"
  s!"RequestContext \x7b token: {token}, cancel: {Log.flag cancelled} \x7d"

end Caller

/-- A page of a listing with the number of all entities selected. -/
structure Listing (E : Type) where
  items : List E
  total : Nat

/-- The gate in front of a kind of resource: two tables without gaps. -/
structure Gate (Op : Type) [OperationSet Op] (K : Resource) where
  evaluator : Evaluator Op K
  complete : evaluator.ensureComplete = .ok ()

namespace Gate

variable {Op : Type} {K : Resource}

/-- Makes a gate; tables with a gap are refused. -/
def of [OperationSet Op] (e : Evaluator Op K) : Except PolicyError (Gate Op K) :=
  match h : e.ensureComplete with
  | .ok () => .ok ⟨e, h⟩
  | .error why => .error why

/-- The gate as debug texts show it. -/
def describe [OperationSet Op] (g : Gate Op K) : String :=
  s!"AuthorizationGate \x7b resource: {Text.quoted K.name}, evaluator: " ++
    g.evaluator.describe ++ ", .. \x7d"

/-! ## Steps -/

/-- Asks one question. -/
def asking (q : GateCall K) : Attempt (gateSignature K) q.Answer :=
  ExceptT.mk ((Program.call (S := gateSignature K) q).bind fun a => .done (.ok a))

/-- Writes to the log. -/
def say (entry : Log.Entry) : Attempt (gateSignature K) Unit := asking (.log entry)

/-- A call on the store, whose failure is that of the request. -/
def storing (c : StoreCall K) {α : Type} (h : c.Answer = Except Failure α) :
    Attempt (gateSignature K) α :=
  ExceptT.mk ((Program.call (S := gateSignature K) (.store c)).bind fun a => .done (h ▸ a))

/-- An answer that was found earlier, or the failure that took its place. -/
def given {α : Type} (x : Except Failure α) : Attempt (gateSignature K) α :=
  ExceptT.mk (.done x)

/-- Goes on unless the request is cancelled. -/
def checkpoint : Attempt (gateSignature K) Unit := do
  if ← asking .poll then
    say (Log.debug "request cancelled before mutation" [("state", "error")])
    throw .cancelled

/-- What is logged about a verified caller. -/
def authenticatedEntry (s : Option Subject) : Log.Entry :=
  Log.debug "" ([("state", "authenticated"), ("anonymous", Log.flag s.isNone)] ++
    (s.map fun s => ("subject", s.id)).toList)

/-- Who the caller is. A credential that does not verify ends the request. -/
def authenticate (c : Caller) : Attempt (gateSignature K) (Option Subject) := do
  checkpoint
  match ← asking (.verify c.token) with
  | .ok s =>
    say (authenticatedEntry s)
    pure s
  | .error e =>
    say (Log.debug "authentication failed" [("state", "error"), ("error", e.message)])
    throw (.ofAuth e)

/-- What is logged about a passed check. -/
def passedEntry [OperationSet Op] (state : String) (op : Op) : Log.Entry :=
  Log.debug "" [("state", state), ("operation", OperationSet.name op)]

/-- The coarse check. -/
def authorizeOperation [OperationSet Op] (g : Gate Op K) (s : Option Subject) (op : Op) :
    Attempt (gateSignature K) Unit := do
  checkpoint
  asking (.consult .operation ((g.evaluator.operations.asked op s ()).filterMap Checker.mark))
  let (verdict, entry) := g.evaluator.judgeOperation s op
  say entry
  given (verdict.mapError .ofPolicy)
  say (passedEntry "operation_authorized" op)

/-- The check of a target. -/
def authorizeObject [OperationSet Op] (g : Gate Op K) (s : Option Subject) (op : Op)
    (t : Target K) : Attempt (gateSignature K) Unit := do
  checkpoint
  asking (.consult .object ((g.evaluator.objects.asked op s t).filterMap Checker.mark))
  let (verdict, entry) := g.evaluator.judgeObject s op t
  say entry
  given (verdict.mapError .ofPolicy)
  say (passedEntry "object_authorized" op)

/-- The stored entity. -/
def fetch (id : K.Id) : Attempt (gateSignature K) K.Entity := do
  checkpoint
  let e ← storing (.get id) rfl
  say (Log.debug "store.get completed" [("state", "business_invoked")])
  pure e

/-- Tells the sinks about a change. Whether they get the news does not concern the caller. -/
def announce (change : Change) (id : K.Id) (entity : K.Entity) :
    Attempt (gateSignature K) Unit := do
  match ← asking (.send ⟨change, entity⟩) with
  | .ok () => say (Log.debug "event sent" [("state", "completed"), ("operation", change.name)])
  | .error e =>
    say (Log.error s!"can't send '{change.name}' event" [("operation", change.name),
      ("resource_id", K.idText id), ("error", e.message)])

/-- What is logged about a completed change. -/
def mutatedEntry (method : String) : Log.Entry :=
  Log.debug s!"store.{method} completed" [("state", "mutated")]

/-! ## Pipelines -/

/-- A request whose checks may fail before there is a plan. -/
def request {β : Type}
    (front : Attempt (gateSignature K) (Plan (gateSignature K) K.Entity (Except Failure β))) :
    Request (gateSignature K) K.Entity (Except Failure β) :=
  Program.bind front.run fun
    | .ok plan => .done plan
    | .error e => .done (.answer (.error e))

variable [PipelineSet Op]

/-- Creates an entity. The draft itself is the target of the check. -/
def create (g : Gate Op K) (c : Caller) (input : Except Failure K.Draft) :
    Request (gateSignature K) K.Entity (Except Failure K.Entity) := request do
  let s ← authenticate c
  g.authorizeOperation s PipelineSet.create
  let draft ← given input
  g.authorizeObject s PipelineSet.create (.draft draft)
  checkpoint
  let work := do
    let entity ← storing (.create draft) rfl
    say (mutatedEntry "create")
    announce .created (K.idOf entity) entity
    pure entity
  pure (.task work id)

/-- Reads an entity. -/
def get (g : Gate Op K) (c : Caller) (input : Except Failure K.Id) :
    Request (gateSignature K) K.Entity (Except Failure K.Entity) := request do
  let s ← authenticate c
  g.authorizeOperation s PipelineSet.detail
  let id ← given input
  let entity ← fetch id
  g.authorizeObject s PipelineSet.detail (.entity entity)
  say (Log.debug "" [("state", "completed")])
  pure (.answer (.ok entity))

/-- Reads a page of entities and counts all that are selected. The filter is the target. -/
def list (g : Gate Op K) (c : Caller) (input : Except Failure K.Filter) :
    Request (gateSignature K) K.Entity (Except Failure (Listing K.Entity)) := request do
  let s ← authenticate c
  g.authorizeOperation s PipelineSet.list
  let filter ← given input
  g.authorizeObject s PipelineSet.list (.filter filter)
  checkpoint
  let items ← storing (.list filter) rfl
  let total ← storing (.count filter) rfl
  say (Log.debug "" [("state", "completed"), ("items", toString items.length),
    ("total", toString total)])
  pure (.answer (.ok ⟨items, total⟩))

/-- Changes an entity. The stored entity is the target of the check. -/
def update (g : Gate Op K) (c : Caller) (input : Except Failure K.Patch) :
    Request (gateSignature K) K.Entity (Except Failure K.Entity) := request do
  let s ← authenticate c
  g.authorizeOperation s PipelineSet.update
  let patch ← given input
  let target := K.patched patch
  let current ← fetch target
  g.authorizeObject s PipelineSet.update (.entity current)
  checkpoint
  let work := do
    let entity ← storing (.update patch) rfl
    say (mutatedEntry "update")
    announce .updated target entity
    pure entity
  pure (.task work id)

/-- Deletes an entity. The event holds the entity as it was when it was checked. -/
def delete (g : Gate Op K) (c : Caller) (input : Except Failure K.Id) :
    Request (gateSignature K) K.Entity (Except Failure Unit) := request do
  let s ← authenticate c
  g.authorizeOperation s PipelineSet.delete
  let id ← given input
  let entity ← fetch id
  g.authorizeObject s PipelineSet.delete (.entity entity)
  checkpoint
  let work := do
    storing (.delete id) rfl
    say (mutatedEntry "delete")
    announce .deleted id entity
    pure entity
  pure (.task work fun outcome => outcome.map fun _ => ())

/-- Authenticates and checks an operation, for surfaces that are no pipeline of their own. -/
def authorize (g : Gate Op K) (c : Caller) (op : Op) :
    Request (gateSignature K) K.Entity (Except Failure (Option Subject)) := request do
  let s ← authenticate c
  g.authorizeOperation s op
  pure (.answer (.ok s))

end Gate

end Gatehouse
