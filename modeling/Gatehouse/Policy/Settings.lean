import Gatehouse.Policy.Evaluator

/-!
# Configured policies

A policy as configuration gives it: at each level, for each operation, a list of stock checkers.
Unless configured otherwise everybody may read and only authenticated callers may change anything.
-/

namespace Gatehouse

/-- For each operation the stock checkers listed for it, if it is mentioned. -/
structure Chains where
  of : Operation → Option (List Builtin)

namespace Chains

/-- Mentions no operation. -/
def none : Chains := ⟨fun _ => Option.none⟩

/-- Mentions one more operation, or lists other checkers for it. -/
def set (c : Chains) (op : Operation) (bs : List Builtin) : Chains :=
  ⟨fun o => if o = op then some bs else c.of o⟩

/-- Everybody reads, authenticated callers change. -/
def standard : Chains :=
  ⟨fun
    | .list | .detail => some [.anybody]
    | .create | .update | .delete => some [.user]⟩

/-- The mentioned operations with their checkers, in order. -/
def entries (c : Chains) : List (Operation × List Builtin) :=
  Operation.all.filterMap fun op => (c.of op).map fun bs => (op, bs)

/-- The table with these chains. -/
def table (Q : Type) (c : Chains) : Table Operation Q :=
  c.entries.foldl (fun t e => t.pushAll e.1 e.2) Table.empty

/-- The written form. -/
def toJson (c : Chains) : Json :=
  .obj (c.entries.map fun (op, bs) => (op.name, .arr (bs.map fun b => .str b.name)))

/-- Reads members in order, later mentions of an operation replacing earlier ones. -/
def ofMembers (builtin : Json.Decoder Builtin) (c : Chains) :
    List (Option String × Json.Tree) → Except Json.Fault Chains
  | [] => .ok c
  | (Option.none, _) :: _ => .error (.cut .malformed)
  | (some k, t) :: ms => do
    let op ← Json.inside (.member k) (Json.named Operation.names k)
    let bs ← Json.inside (.member k) (Json.list builtin t)
    ofMembers builtin (c.set op bs) ms

/-- Reads chains, given how a stock checker is read. -/
def decodeWith (builtin : Json.Decoder Builtin) : Json.Decoder Chains
  | .obj members tail => do
    let c ← ofMembers builtin none members
    Json.noCut tail
    pure c
  | t => Json.expected "a map" t

end Chains

/-- The configured policy of both levels. -/
structure PolicySettings where
  operations : Chains
  objects : Chains

namespace PolicySettings

/-- The policy that holds unless configured otherwise. -/
def standard : PolicySettings := ⟨.standard, .standard⟩

/-- The written form. -/
def toJson (p : PolicySettings) : Json :=
  .obj [("operations", p.operations.toJson), ("objects", p.objects.toJson)]

/-- How a policy is read, given how a stock checker is; a level that is not mentioned is the standard
one. -/
def formWith (builtin : Json.Decoder Builtin) : Json.Form PolicySettings :=
  mk <$> .withDefault "operations" (Chains.decodeWith builtin) .standard
    <*> .withDefault "objects" (Chains.decodeWith builtin) .standard

/-- Reads a policy. -/
def decode : Json.Decoder PolicySettings :=
  (formWith Builtin.decode).decode "PolicyConfig" .refuse

/-- The tables of a policy, with whatever gaps they have. -/
def tables (R : Resource) (p : PolicySettings) : Evaluator Operation R :=
  ⟨p.operations.table Unit, p.objects.table (Target R)⟩

/-- The tables of a policy, refused if they have a gap. -/
def evaluator (R : Resource) (p : PolicySettings) : Except PolicyError (Evaluator Operation R) := do
  let e := p.tables R
  e.ensureComplete
  pure e

end PolicySettings

end Gatehouse
