import Gatehouse.Http.Endpoint
import Gatehouse.Http.EventStream
import Gatehouse.Rehearsal.World

/-!
# A site to rehearse with

The routes in front of a world, and the streams of events that clients hold. Streams are numbered as
they are opened.
-/

namespace Gatehouse.Rehearsal

/-- A stream that a client holds. -/
inductive Stream where
  /-- It belongs to a subscriber of the channel. -/
  | live (reader : Nat)
  /-- It was over as soon as it was opened. -/
  | over
  /-- The client has closed it. -/
  | closed

/-- A gate, the rules for pages and the verifier behind the routes; the world, and the streams. -/
structure Site where
  gate : CompanyGate
  paging : PagingSettings
  verifier : Verifier
  world : World
  streams : List Stream

namespace Site

/-- Answers a request. A response that is a stream gets the next number; without a body it is over at
once. -/
def request (s : Site) (m : Mishaps) (r : Http.Request) : Outcome Http.Response × Site :=
  let exchange := CompanyGate.withService s.paging (Http.respond s.gate r)
  let (outcome, w) := (run s.verifier m exchange).run s.world
  match outcome with
  | .finished reply =>
    let w := { w with logs := reply.entries.reverse ++ w.logs }
    let streamed := reply.response.header? "content-type" == some "text/event-stream"
    let s := match reply.response.body with
      | .events =>
        { s with
          world := { w with channel := w.channel.subscribe }
          streams := s.streams ++ [.live w.channel.readers.length] }
      | _ => { s with world := w, streams := if streamed then s.streams ++ [.over] else s.streams }
    (.finished reply.response, s)
  | .left => (.left, { s with world := w })
  | .brokeDown => (.brokeDown, { s with world := w })

/-- What a client finds in a stream. -/
inductive Reading where
  | frames (texts : List String)
  | ended
  | noStream

/-- Reads what is ready in a stream. -/
def read (s : Site) (n : Nat) : Reading × Site :=
  match s.streams[n]? with
  | some (.live reader) =>
    let (texts, channel) := Http.EventStream.ready reader s.world.channel
    (.frames texts, { s with world := { s.world with channel := channel } })
  | some .over => (.ended, s)
  | some .closed | none => (.noStream, s)

/-- Closes a stream. -/
def close (s : Site) (n : Nat) : Site :=
  let channel := match s.streams[n]? with
    | some (.live reader) => s.world.channel.leave reader
    | _ => s.world.channel
  { s with
    world := { s.world with channel := channel }
    streams := s.streams.set n .closed }

end Site

end Gatehouse.Rehearsal
