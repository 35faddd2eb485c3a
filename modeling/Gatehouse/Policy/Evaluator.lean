import Gatehouse.Policy.Table
import Gatehouse.Log

/-!
# The evaluator

The two tables of a resource together. Each question is answered by the chain of its operation at
its level, and every answer leaves one log entry.
-/

namespace Gatehouse

/-- A table for callers alone and a table for callers and targets. -/
structure Evaluator (Op : Type) (R : Resource) where
  operations : Table Op Unit
  objects : Table Op (Target R)

namespace Evaluator

variable {Op : Type} [OperationSet Op] {R : Resource}

/-- Tables with a gap are refused, the coarse one first. -/
def ensureComplete (e : Evaluator Op R) : Except PolicyError Unit := do
  e.operations.ensureComplete .operation
  e.objects.ensureComplete .object

/-- The entry about a gap found while judging. -/
def gapEntry (level : PolicyLevel) (op : Op) : Log.Entry :=
  Log.error "policy table has no chain for operation; denying"
    [("level", level.name), ("operation", OperationSet.name op)]

/-- Turns the answer of a chain into the outcome and its log entry. The details of the question
stand between the operation and the answer. -/
def conclude {Q : Type} (level : PolicyLevel) (op : Op) (s : Option Subject)
    (details : List (String × String)) : Verdict Q → Except PolicyError Unit × Log.Entry
  | .allowed c =>
    (.ok (), Log.debug s!"{level.name} allowed"
      (("operation", OperationSet.name op) :: details ++ [("checker", c.label)]))
  | .exhausted =>
    (.error .permissionDenied, Log.debug s!"{level.name} denied: chain exhausted"
      (("operation", OperationSet.name op) :: details ++ [("anonymous", Log.flag s.isNone)]))
  | .gap => (.error .permissionDenied, gapEntry level op)

/-- The coarse question: may this caller ask for this operation at all? -/
def judgeOperation (e : Evaluator Op R) (s : Option Subject) (op : Op) :
    Except PolicyError Unit × Log.Entry :=
  conclude .operation op s [] (e.operations.judge op s ())

/-- The object question: may this caller ask for it on this target? -/
def judgeObject (e : Evaluator Op R) (s : Option Subject) (op : Op) (t : Target R) :
    Except PolicyError Unit × Log.Entry :=
  conclude .object op s [("resource", R.name), ("target", t.kind)] (e.objects.judge op s t)

/-- The evaluator as debug texts show it. -/
def describe (e : Evaluator Op R) : String :=
  s!"PermissionEvaluator \x7b resource: {Text.quoted R.name}, operations: " ++
    e.operations.describe ++ ", objects: " ++ e.objects.describe ++ " \x7d"

end Evaluator

/-- A target as debug texts show it. -/
def Target.describe {R : Resource} (t : Target R) : String :=
  s!"Target \x7b resource: {Text.quoted R.name}, kind: {Text.quoted t.kind}, .. \x7d"

end Gatehouse
