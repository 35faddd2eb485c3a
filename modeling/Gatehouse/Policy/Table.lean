import Gatehouse.Policy.Operation
import Gatehouse.Policy.Checker

/-!
# Policy tables

A table gives each operation a chain of checkers, tried in order until one allows. A missing chain
and an empty one deny alike, and count as gaps of the table.
-/

namespace Gatehouse

/-- The two levels at which a request is judged. -/
inductive PolicyLevel where
  | operation
  | object
  deriving DecidableEq

/-- The name of a level. -/
def PolicyLevel.name : PolicyLevel → String
  | operation => "operation"
  | object => "object"

/-- Why a policy refuses: a caller no checker allows, or a table with a gap. -/
inductive PolicyError where
  | permissionDenied
  | missingChain (level : PolicyLevel) (operation : String)
  deriving DecidableEq

/-- What a policy error says. -/
def PolicyError.message : PolicyError → String
  | permissionDenied => "permission denied"
  | missingChain level op => s!"no {level.name}-level policy chain for operation '{op}'"

/-- For each operation its chain of checkers, if it has one. -/
structure Table (Op Q : Type) where
  chain : Op → Option (List (Checker Q))

/-- How a chain answers: the checker that allowed, no checker did, or there is none. -/
inductive Verdict (Q : Type) where
  | allowed (by_ : Checker Q)
  | exhausted
  | gap

namespace Table

variable {Op Q : Type} [OperationSet Op]

/-- The table without chains. -/
def empty : Table Op Q := ⟨fun _ => none⟩

/-- Appends a checker to the chain of an operation. -/
def push (t : Table Op Q) (op : Op) (c : Checker Q) : Table Op Q :=
  ⟨fun o => if o == op then some ((t.chain o).getD [] ++ [c]) else t.chain o⟩

/-- Appends stock checkers to the chain of an operation. -/
def pushAll (t : Table Op Q) (op : Op) (bs : List Builtin) : Table Op Q :=
  bs.foldl (fun t b => t.push op (b.checker Q)) t

/-- The checkers of an operation; none without a chain. -/
def checkers (t : Table Op Q) (op : Op) : List (Checker Q) := (t.chain op).getD []

/-- The operations with a missing or empty chain. -/
def gaps (t : Table Op Q) : List Op :=
  (OperationSet.all : List Op).filter fun op => (t.checkers op).isEmpty

/-- A table with a gap is refused, by the first. -/
def ensureComplete (t : Table Op Q) (level : PolicyLevel) : Except PolicyError Unit :=
  match t.gaps with
  | [] => .ok ()
  | op :: _ => .error (.missingChain level (OperationSet.name op))

/-- The answer of the chain of an operation. -/
def judge (t : Table Op Q) (op : Op) (s : Option Subject) (q : Q) : Verdict Q :=
  match t.checkers op with
  | [] => .gap
  | c :: cs =>
    match (c :: cs).find? fun c => c.allows s q with
    | some c => .allowed c
    | none => .exhausted

/-- The checkers of a chain that are asked, in order: those up to the first that allows. -/
def asked (t : Table Op Q) (op : Op) (s : Option Subject) (q : Q) : List (Checker Q) :=
  upToAllowing (t.checkers op)
where
  upToAllowing : List (Checker Q) → List (Checker Q)
    | [] => []
    | c :: cs => if c.allows s q then [c] else c :: upToAllowing cs

/-- Each operation with the length of its chain. -/
def describe (t : Table Op Q) : String :=
  let entry (op : Op) := s!"{Text.quoted (OperationSet.name op)}: {(t.checkers op).length}"
  "\x7b" ++ ", ".intercalate ((OperationSet.all : List Op).map entry) ++ "\x7d"

end Table

end Gatehouse
