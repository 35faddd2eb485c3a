import Gatehouse.Gate.Failure
import Gatehouse.Notify.Sink
import Gatehouse.Policy.Checker
import Gatehouse.Program

/-!
# What the gate asks of its surroundings

The questions that a request through the gate may ask: whether it is cancelled, who the caller is,
what the store knows or shall do, whether an event can be delivered. Checkers and the log are told,
not asked.
-/

namespace Gatehouse

/-- A call on the store of a kind of resource. -/
inductive StoreCall (K : Resource) where
  | get (id : K.Id)
  | create (draft : K.Draft)
  | update (patch : K.Patch)
  | delete (id : K.Id)
  | list (filter : K.Filter)
  | count (filter : K.Filter)

namespace StoreCall

/-- The type of a store's answer. -/
@[reducible] def Answer {K : Resource} : StoreCall K → Type
  | get _ => Except Failure K.Entity
  | create _ => Except Failure K.Entity
  | update _ => Except Failure K.Entity
  | delete _ => Except Failure Unit
  | list _ => Except Failure (List K.Entity)
  | count _ => Except Failure Nat

/-- Whether a call may change the store. -/
def mutates {K : Resource} : StoreCall K → Bool
  | create _ | update _ | delete _ => true
  | get _ | list _ | count _ => false

end StoreCall

/-- What a request through the gate asks. -/
inductive GateCall (K : Resource) where
  /-- Is the request cancelled? -/
  | poll
  /-- Who presents this credential? -/
  | verify (token : Option String)
  /-- The checkers with these marks are being asked, at this level. -/
  | consult (level : PolicyLevel) (marks : List String)
  | store (call : StoreCall K)
  /-- Can this event be delivered? -/
  | send (event : Event K.Entity)
  | log (entry : Log.Entry)

/-- The type of the answer to a call. -/
@[reducible] def GateCall.Answer {K : Resource} : GateCall K → Type
  | poll => Bool
  | verify _ => Except AuthError (Option Subject)
  | consult _ _ => Unit
  | store call => call.Answer
  | send _ => Delivery
  | log _ => Unit

/-- The calls of the gate. -/
@[reducible] def gateSignature (K : Resource) : Signature := ⟨GateCall K, GateCall.Answer⟩

/-- A part of a request, which may fail. -/
abbrev Attempt (S : Signature) (α : Type) := ExceptT Failure (Program S) α

/-- What is left of a request when all checks have passed: its answer, or a task that runs to its
end even if the caller leaves, and what its outcome means for the caller. The outcome is the entity
that the task was about. -/
inductive Plan (S : Signature) (E β : Type) where
  | answer (b : β)
  | task (work : Attempt S E) (finish : Except Failure E → β)

namespace Plan

variable {S T : Signature} {E β γ : Type}

/-- Changes what the caller gets. -/
def map (f : β → γ) : Plan S E β → Plan S E γ
  | answer b => .answer (f b)
  | task work finish => .task work (f ∘ finish)

/-- Answers the questions of a plan by programs over another signature. -/
def refine (by_ : (q : S.Ask) → Program T (S.Answer q)) : Plan S E β → Plan T E β
  | answer b => .answer b
  | task work finish => .task (Program.refine by_ work.run) finish

/-- What a caller is told when the task breaks down. -/
def breakdown : Failure := .unexpected "mutation task failed"

end Plan

/-- A request: the part that ends when the caller leaves, and then the plan. -/
abbrev Request (S : Signature) (E β : Type) := Program S (Plan S E β)

namespace Request

variable {S T : Signature} {E β γ : Type}

/-- Changes what the caller gets. -/
def map (f : β → γ) (r : Request S E β) : Request S E γ := Program.bind r fun p => .done (p.map f)

/-- Answers the questions of a request by programs over another signature. -/
def refine (by_ : (q : S.Ask) → Program T (S.Answer q)) (r : Request S E β) : Request T E β :=
  (Program.refine by_ r).bind fun p => .done (p.refine by_)

end Request

end Gatehouse
