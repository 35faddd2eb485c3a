import Gatehouse.Policy.Subject

/-!
# Checkers

A checker answers whether a caller may go on. At the coarse level it sees the caller alone; at the
object level it also sees what the request is about. Four stock checkers ignore the object.
-/

namespace Gatehouse

/-- A kind of resource: the types of its stored entities, of the payloads of requests, and how
entities are identified. -/
structure Resource where
  /-- The name used in logs and messages. -/
  name : String
  Entity : Type
  Draft : Type
  Filter : Type
  Patch : Type
  Id : Type
  idOf : Entity → Id
  /-- The identifier of the entity that a patch is for. -/
  patched : Patch → Id
  idText : Id → String

/-- What a request is about, as checkers at the object level see it: a payload to create, a stored
entity, or a filter. -/
inductive Target (R : Resource) where
  | draft (d : R.Draft)
  | entity (e : R.Entity)
  | filter (f : R.Filter)

/-- The kind of a target as logs name it. -/
def Target.kind {R : Resource} : Target R → String
  | draft _ => "create"
  | entity _ => "entity"
  | filter _ => "filter"

/-- A predicate on callers and on questions of one type, with the name that logs show. A checker
with a mark is reported by it whenever it is asked. -/
structure Checker (Q : Type) where
  label : String
  mark : Option String
  allows : Option Subject → Q → Bool

/-- The stock checkers. -/
inductive Builtin where
  | anybody
  | user
  | nobody
  | admin
  deriving DecidableEq

namespace Builtin

/-- All stock checkers. -/
def all : List Builtin := [anybody, user, nobody, admin]

/-- The name used in configuration and logs. -/
def name : Builtin → String
  | anybody => "anybody"
  | user => "user"
  | nobody => "nobody"
  | admin => "admin"

/-- Whom a stock checker lets pass. -/
def allows : Builtin → Option Subject → Bool
  | anybody, _ => true
  | user, s => s.isSome
  | nobody, _ => false
  | admin, s => s.any Subject.admin

/-- A stock checker at either level. -/
def checker (Q : Type) (b : Builtin) : Checker Q := ⟨b.name, none, fun s _ => b.allows s⟩

/-- The stock checkers with their names. -/
def names : List (String × Builtin) := all.map fun b => (b.name, b)

/-- Reads a stock checker. -/
def decode : Json.Decoder Builtin := Json.choice names

end Builtin

end Gatehouse
