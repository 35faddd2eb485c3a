import Gatehouse.Auth.TokenVerifier
import Gatehouse.Company.Service
import Gatehouse.Notify.Channel

/-!
# A world to rehearse in

Everything a request meets, held in memory: a registry, a channel of events, sinks that record what
they are sent, and a clock. What happens is written down as a trace. Mishaps can be arranged in
advance: a cancellation at a given point, a step that fails or breaks down, a company that vanishes,
a sink that refuses, a caller who leaves.
-/

namespace Gatehouse.Rehearsal

/-- What is arranged to go wrong during one request. Points are named as in the trace. -/
structure Mishaps where
  /-- The request is cancelled at this point. -/
  cancelAt : Option String
  /-- These steps on the registry fail, with these messages. -/
  failing : List (String × String)
  /-- This step on the registry breaks down. -/
  breakAt : Option String
  /-- The company that this find returns vanishes right after it. -/
  vanishAfterFind : Option Nat
  /-- How the recording sinks answer; those not listed succeed. -/
  sinkOutcomes : List Delivery
  /-- The caller leaves while this step on the registry is waiting. -/
  leaveAt : Option String

/-- Nothing goes wrong. -/
def Mishaps.none : Mishaps := ⟨.none, [], .none, .none, [], .none⟩

/-- The state of the world. Lists of what happened have the newest first. -/
structure World where
  registry : Registry
  channel : Channel (Event Company)
  /-- The number of recording sinks. -/
  sinks : Nat
  cancelled : Bool
  trace : List String
  events : List (Event Company)
  logs : List Log.Entry
  /-- Identifiers given out so far. -/
  issued : Nat
  /-- Readings of the clock so far. -/
  ticks : Nat
  /-- Companies looked for by the present request. -/
  finds : Nat
  /-- Whether the caller of the present request has left. -/
  left : Bool

namespace World

/-- A world with some companies in it, a channel, and recording sinks. -/
def of (registry : Registry) (channel : Channel (Event Company)) (sinks : Nat) : World :=
  ⟨registry, channel, sinks, false, [], [], [], 0, 0, 0, false⟩

/-- The world as the next request finds it. -/
def fresh (w : World) (m : Mishaps) : World :=
  { w with
    cancelled := m.cancelAt == some "start"
    trace := []
    events := []
    logs := []
    finds := 0
    left := false }

/-- The first identifier that is given out; all of them come after those written down by hand. -/
def firstId : Nat := 0x0190000000007000800000000000000 * 16

/-- The identifier that is given out after so many others. -/
def issuedId (n : Nat) : Uuid := Uuid.ofNat (firstId + n)

/-- Whether an identifier is one of those given out. -/
def isIssued (w : World) (id : Uuid) : Bool :=
  firstId ≤ id.bits.toNat && id.bits.toNat < firstId + w.issued

/-- What the clock shows after so many readings. -/
def clock (n : Nat) : Timestamp :=
  ((Date.of? 2026 1 1).bind fun d => Timestamp.of? d 0 0 0 (n % 1000000000) 0).getD default

/-- Whether a moment was read off the clock. -/
def isRead (w : World) (t : Timestamp) : Bool :=
  t.offset == 0 && (clock 0).instant ≤ t.instant && t.instant < (clock 0).instant + w.ticks

end World

/-- Why a run of a program ends early. -/
inductive Stop where
  | brokeDown
  | left

/-- Runs in a world. -/
abbrev Run (α : Type) := ExceptT Stop (StateM World) α

/-- Who verifies credentials and what is logged about it, and whether the trace shows it. -/
structure Verifier where
  verify : Option String → Except AuthError (Option Subject) × List Log.Entry
  traced : Bool

/-- The time at which tokens are verified, in seconds: the first of January 2026. -/
def today : Int64 := 1767225600

/-- A verifier of signed tokens. -/
def Verifier.ofTokens (v : TokenVerifier) : Verifier := ⟨v.verify today, false⟩

/-- Credentials that are mere names, each with the caller it stands for or the reason why callers
cannot be verified. Any other name is an expired credential. -/
def Verifier.ofNames (names : List (String × (Subject ⊕ String))) : Verifier where
  verify token :=
    let verdict := match Token.parse? token with
      | none => .ok none
      | some t =>
        match names.find? fun n => n.1 == t.text with
        | some (_, .inl s) => .ok (some s)
        | some (_, .inr reason) => .error (.settings reason)
        | none => .error (.invalidToken .expired)
    (verdict, [])
  traced := true

/-- The names that are known unless others are given. -/
def Verifier.standardNames : List (String × (Subject ⊕ String)) :=
  [("alice", .inl (.ofId "alice")), ("bob", .inl (.ofId "bob")),
    ("root", .inl { Subject.ofId "root" with admin := true })]

/-- Writes a line of the trace, and cancels the request if that is arranged for this point. -/
def reach (m : Mishaps) (line point : String) : Run Unit :=
  modify fun w => { w with
    trace := line :: w.trace
    cancelled := w.cancelled || m.cancelAt == some point }

/-- The sinks of a world, each on its own. -/
inductive SinkName where
  | log
  | channel
  | recorder (n : Nat)

/-- All sinks of a world, as one. -/
def sinkOf (recorders : Nat) : Sink SinkName :=
  .fanout ([.single .log, .single .channel] ++
    (List.range recorders).map fun n => .single (.recorder n))

/-- How a sink of a world takes an event. -/
def serve (m : Mishaps) (e : Event Company) : SinkName → Run Delivery
  | .log => do
    let (outcome, entries) := LogSink.send (fun c => some c.toJson) e
    modify fun w => { w with logs := entries ++ w.logs }
    pure outcome
  | .channel => do
    modify fun w => { w with
      logs := w.channel.sentEntry :: w.logs
      channel := w.channel.send e }
    pure (.ok ())
  | .recorder n => do
    reach m s!"send {n} {e.change.name}" "send"
    modify fun w => { w with events := e :: w.events }
    pure (m.sinkOutcomes[n]?.getD (.ok ()))

/-- A step on the registry, with the mishaps arranged for it. A caller who leaves ends the part of
the request that runs in the caller's presence, but no task. While the rows of a listing are waited
for, their count is asked for too. -/
def step (m : Mishaps) (inTask : Bool) (c : RegistryCall) : Run c.Answer := do
  reach m c.name c.name
  if m.leaveAt == some c.name then
    modify fun w => { w with left := true }
    if !inTask then
      if c.name == "list" then reach m "count" "count"
      throw .left
  if m.breakAt == some c.name then throw .brokeDown
  match m.failing.find? fun f => f.1 == c.name with
  | some (_, message) => pure (c.failed (.storage message))
  | none =>
    let w ← get
    let (answer, registry) := c.perform w.registry
    set { w with registry := registry }
    match c with
    | .find id =>
      modify fun w =>
        let w := { w with finds := w.finds + 1 }
        if m.vanishAfterFind == some w.finds then
          { w with registry := w.registry.erase id }
        else w
    | _ => pure ()
    pure answer

/-- How a world answers. -/
def answer (v : Verifier) (m : Mishaps) (inTask : Bool) : (q : SystemCall) → Run q.Answer
  | .poll => do pure (← get).cancelled
  | .verify token => do
    if v.traced then reach m "verify" "verify"
    let (verdict, entries) := v.verify token
    modify fun w => { w with logs := entries.reverse ++ w.logs }
    pure verdict
  | .consult _ marks => marks.forM fun mark => reach m s!"check {mark}" mark
  | .registry call => step m inTask call
  | .now => do
    let w ← get
    set { w with ticks := w.ticks + 1 }
    pure (World.clock w.ticks)
  | .freshId => do
    let w ← get
    set { w with issued := w.issued + 1 }
    pure (World.issuedId w.issued)
  | .send e => do
    let w ← get
    Sink.send (serve m e) (sinkOf w.sinks)
  | .log entry => modify fun w => { w with logs := entry :: w.logs }

/-- How a request ends. -/
inductive Outcome (β : Type) where
  | finished (b : β)
  /-- The caller has left. -/
  | left
  /-- The part in the caller's presence broke down. -/
  | brokeDown

/-- Runs the task of a plan. It runs to its end whatever the caller does; a breakdown is a failure
like others. -/
def runPlan (v : Verifier) (m : Mishaps) {β : Type} :
    Plan systemSignature Company β → StateM World (Outcome β)
  | .answer b => pure (.finished b)
  | .task work finish => do
    let result ← (Program.run (answer v m true) work.run).run
    if (← get).left then pure .left
    else match result with
      | .ok outcome => pure (.finished (finish outcome))
      | .error _ => pure (.finished (finish (.error Plan.breakdown)))

/-- Runs a request in a world. -/
def run (v : Verifier) (m : Mishaps) {β : Type} (r : CompanyRequest β) :
    StateM World (Outcome β) := do
  modify fun w => w.fresh m
  match ← (Program.run (answer v m false) r).run with
  | .ok plan => runPlan v m plan
  | .error .left => pure .left
  | .error .brokeDown => pure .brokeDown

end Gatehouse.Rehearsal
