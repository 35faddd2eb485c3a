import Gatehouse.Company.Registry
import Gatehouse.Company.Validation
import Gatehouse.Gate.Pipeline
import Gatehouse.Policy.Settings

/-!
# The service

What the registry's store does for the gate: it validates payloads, gives out identifiers and
timestamps, and turns filters into pages. Whether the caller may do this has been decided before.
Each call on the registry is one step; between two of them other requests may run.
-/

namespace Gatehouse

/-- A step on the registry. -/
inductive RegistryCall where
  | find (id : Uuid)
  | insert (c : Company)
  | replace (c : Company)
  | remove (id : Uuid)
  | list (page : Page)
  | count (criteria : Criteria)

namespace RegistryCall

/-- The type of the registry's answer. -/
@[reducible] def Answer : RegistryCall → Type
  | find _ => Except RegistryError (Option Company)
  | insert _ => Except RegistryError Company
  | replace _ => Except RegistryError Company
  | remove _ => Except RegistryError Bool
  | list _ => Except RegistryError (List Company)
  | count _ => Except RegistryError Nat

/-- The name of a step. -/
def name : RegistryCall → String
  | find _ => "find"
  | insert _ => "insert"
  | replace _ => "replace"
  | remove _ => "remove"
  | list _ => "list"
  | count _ => "count"

/-- The answer that a step fails with an error. -/
def failed (e : RegistryError) : (c : RegistryCall) → c.Answer
  | find _ => .error e
  | insert _ => .error e
  | replace _ => .error e
  | remove _ => .error e
  | list _ => .error e
  | count _ => .error e

/-- What a registry held in memory answers, and how the step leaves it. -/
def perform (r : Registry) : (c : RegistryCall) → c.Answer × Registry
  | find id => (.ok (r.find? id), r)
  | insert c =>
    match r.insert c with
    | .ok r' => (.ok c, r')
    | .error e => (.error e, r)
  | replace c =>
    match r.replace c with
    | .ok r' => (.ok c, r')
    | .error e => (.error e, r)
  | remove id => (.ok (r.contains id), r.erase id)
  | list page => (.ok (r.page page), r)
  | count criteria => (.ok (r.count criteria), r)

end RegistryCall

/-- What a request to the registry of companies asks, all the way down. -/
inductive SystemCall where
  /-- Is the request cancelled? -/
  | poll
  /-- Who presents this credential? -/
  | verify (token : Option String)
  /-- The checkers with these marks are being asked, at this level. -/
  | consult (level : PolicyLevel) (marks : List String)
  | registry (call : RegistryCall)
  /-- What time is it? -/
  | now
  /-- An identifier that was never given out. -/
  | freshId
  /-- Can this event be delivered? -/
  | send (event : Event Company)
  | log (entry : Log.Entry)

/-- The type of the answer to a call. -/
@[reducible] def SystemCall.Answer : SystemCall → Type
  | poll => Bool
  | verify _ => Except AuthError (Option Subject)
  | consult _ _ => Unit
  | registry call => call.Answer
  | now => Timestamp
  | freshId => Uuid
  | send _ => Delivery
  | log _ => Unit

/-- The calls of the whole system. -/
@[reducible] def systemSignature : Signature := ⟨SystemCall, SystemCall.Answer⟩

namespace Service

/-- A part of a request to the service. -/
abbrev Part (α : Type) := Attempt systemSignature α

/-- Asks one question. -/
def asking (q : SystemCall) : Part q.Answer :=
  ExceptT.mk ((Program.call (S := systemSignature) q).bind fun a => .done (.ok a))

/-- Writes to the log. -/
def say (entry : Log.Entry) : Part Unit := asking (.log entry)

/-- Goes on with a result, or fails with the error of the registry. -/
def orFail {α : Type} (x : Except RegistryError α) : Part α :=
  ExceptT.mk (.done (x.mapError .ofRegistry))

/-- The stored company. -/
def get (id : Uuid) : Part Company := do
  say (Log.debug "Getting company by id" [])
  match ← orFail (← asking (.registry (.find id))) with
  | some c => pure c
  | none => orFail (.error (.notFound id))

/-- Stores a new company. -/
def create (d : Company.Draft) : Part Company := do
  orFail d.validate
  let now ← asking .now
  let id ← asking .freshId
  let c ← orFail (← asking (.registry (.insert (.ofDraft id now d))))
  say (Log.info "Company created" [("company_id", c.id.text)])
  pure c

/-- Changes a stored company. -/
def update (p : Company.Patch) : Part Company := do
  orFail p.validate
  match ← orFail (← asking (.registry (.find p.id))) with
  | none => orFail (.error (.notFound p.id))
  | some c =>
    let now ← asking .now
    let c ← orFail (← asking (.registry (.replace { p.applyTo c with updatedAt := now })))
    say (Log.info "Company updated" [])
    pure c

/-- Removes a stored company. -/
def delete (id : Uuid) : Part Unit := do
  if ← orFail (← asking (.registry (.remove id))) then
    say (Log.info "Company deleted" [])
  else orFail (.error (.notFound id))

/-- The companies of the page that a filter asks for. -/
def list (s : PagingSettings) (f : Company.Filter) : Part (List Company) := do
  let page ← orFail (Page.ofFilter s f)
  let cs ← orFail (← asking (.registry (.list page)))
  say (Log.debug "Listed companies" [("offset", toString page.offset),
    ("limit", toString page.limit), ("returned", toString cs.length)])
  pure cs

/-- The number of companies that a filter selects, on whatever page. -/
def count (f : Company.Filter) : Part Nat := do
  orFail (← asking (.registry (.count (.ofFilter f))))

/-- The service as the store of companies. -/
def store (s : PagingSettings) : (c : StoreCall Company.resource) → Program systemSignature c.Answer
  | .get id => (get id).run
  | .create d => (create d).run
  | .update p => (update p).run
  | .delete id => (delete id).run
  | .list f => (list s f).run
  | .count f => (count f).run

/-- The calls of the gate in terms of those of the system. -/
def answering (s : PagingSettings) :
    (c : GateCall Company.resource) → Program systemSignature c.Answer
  | .poll => Program.call (S := systemSignature) .poll
  | .verify token => Program.call (S := systemSignature) (.verify token)
  | .consult level marks => Program.call (S := systemSignature) (.consult level marks)
  | .store call => store s call
  | .send event => Program.call (S := systemSignature) (.send event)
  | .log entry => Program.call (S := systemSignature) (.log entry)

end Service

/-- The gate in front of the registry of companies. -/
abbrev CompanyGate := Gate Operation Company.resource

/-- A request to the registry of companies. -/
abbrev CompanyRequest (β : Type) := Request systemSignature Company β

namespace CompanyGate

/-- Makes the gate from a configured policy. -/
def ofSettings (p : PolicySettings) : Except PolicyError CompanyGate := do
  let e ← p.evaluator Company.resource
  Gate.of e

/-- Puts the service behind a request through the gate. -/
def withService (s : PagingSettings) {β : Type}
    (r : Request (gateSignature Company.resource) Company β) : CompanyRequest β :=
  r.refine (Service.answering s)

end CompanyGate

end Gatehouse
