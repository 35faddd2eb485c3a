import Gatehouse.Company.Service
import Gatehouse.Http.Input
import Gatehouse.Http.Route

/-!
# Answering requests

Every request for companies goes through the gate with the credential and the input that it holds,
readable or not. Failures are answered by problem documents, and what the gate does not know about
it cannot tell.
-/

namespace Gatehouse.Http

/-- A response, and what is logged when it is made. -/
structure Reply where
  response : Response
  entries : List Log.Entry

namespace Reply

/-- A response about which nothing is logged. -/
def quiet (r : Response) : Reply := ⟨r, []⟩

/-- The reply to a failure. -/
def ofFailure (f : Failure) : Reply := ⟨.problem f, [f.logEntry]⟩

/-- The reply to an outcome of the gate. -/
def ofOutcome (success : α → Reply) : Except Failure α → Reply
  | .ok a => success a
  | .error f => ofFailure f

end Reply

/-- A request to the gate that ends in a reply. -/
abbrev Exchange := Gatehouse.Request (gateSignature Company.resource) Company Reply

/-- The exchange that needs nothing from the gate. -/
def answered (r : Response) : Exchange := .done (.answer (.quiet r))

/-- The response that shows a company. -/
def shownOne (status : StatusCode) (c : Company) : Response := .json status c.answerJson

/-- The reply to a created company. -/
def createdReply (c : Company) : Reply :=
  ⟨shownOne .created c, [Log.info "Created company via REST" [("company_id", c.id.text)]]⟩

/-- The reply to a listing; a header holds the number of all companies selected. -/
def listReply (l : Listing Company) : Reply :=
  .quiet ((Response.json .ok (.arr (l.items.map Company.answerJson))).withHeader "count"
    (toString l.total))

/-- The reply to a deletion. -/
def deletedReply (id : String) : Reply :=
  ⟨.bare .noContent, [Log.info "Deleted company via REST" [("company_id", id)]]⟩

/-- The reply to a subscriber. -/
def subscribedReply : Reply := ⟨.events, [Log.info "New SSE connection for company events" []]⟩

/-- The response to a segment of the path that is no text. -/
def illegalSegment : Response :=
  .text .badRequest "Invalid URL: Invalid UTF-8 in `id`"

/-- Goes on with the identifier in a segment of the path. -/
def withSegment (segment : List Char) (k : String → Exchange) : Exchange :=
  match segmentText? segment with
  | some text => k text
  | none => answered illegalSegment

/-- What an action does. Subscribing to events is allowed to those who may list companies. -/
def perform (g : CompanyGate) (r : Request) : Action → Exchange
  | .health => answered (.text .ok "ok")
  | .create =>
    (g.create ⟨r.credential?⟩ (readBody Company.Draft.decodeRequest r)).map (.ofOutcome createdReply)
  | .list => (g.list ⟨r.credential?⟩ (readFilter r)).map (.ofOutcome listReply)
  | .events =>
    (g.authorize ⟨r.credential?⟩ Operation.list).map (.ofOutcome fun _ => subscribedReply)
  | .get segment => withSegment segment fun id =>
    (g.get ⟨r.credential?⟩ (readId id)).map
      (.ofOutcome fun c => .quiet (shownOne .ok c))
  | .update segment => withSegment segment fun id =>
    let patch := do
      let id ← readId id
      let patch ← readBody Company.Patch.decodeRequest r
      pure (patch id)
    (g.update ⟨r.credential?⟩ patch).map (.ofOutcome fun c => .quiet (shownOne .ok c))
  | .delete segment => withSegment segment fun id =>
    (g.delete ⟨r.credential?⟩ (readId id)).map (.ofOutcome fun _ => deletedReply id)

/-- Answers a request. Asking for the head of an answer does the same work and leaves out the body. -/
def respond (g : CompanyGate) (r : Request) : Exchange :=
  match Route.of? r.target.path with
  | none => answered (.bare .notFound)
  | some route =>
    let isHead := r.method == "HEAD"
    match route.action? (if isHead then "GET" else r.method) with
    | none => answered ((Response.bare .methodNotAllowed).withHeader "allow" route.methods)
    | some action =>
      if isHead then
        (perform g r action).map fun reply => { reply with response := reply.response.withoutBody }
      else perform g r action

end Gatehouse.Http
