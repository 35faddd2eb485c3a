import Gatehouse.Json.Decode

/-!
# Operations

Policies are kept per operation. A kind of resource has its own closed set of operations, five of
which are the pipelines of the gate; the registry of companies has just those five.
-/

namespace Gatehouse

/-- A closed set of things that can be asked for, with the names used in configuration and logs. -/
class OperationSet (Op : Type) extends BEq Op, LawfulBEq Op where
  /-- The operations in the order in which they are listed everywhere. -/
  all : List Op
  name : Op → String

/-- A set of operations that has one for each pipeline of the gate. -/
class PipelineSet (Op : Type) extends OperationSet Op where
  list : Op
  detail : Op
  create : Op
  update : Op
  delete : Op

/-- What a request asks the registry for. -/
inductive Operation where
  | list
  | detail
  | create
  | update
  | delete
  deriving DecidableEq

namespace Operation

/-- All operations. -/
def all : List Operation := [list, detail, create, update, delete]

/-- The name used in configuration and logs. -/
def name : Operation → String
  | list => "company_list"
  | detail => "company_detail"
  | create => "company_create"
  | update => "company_update"
  | delete => "company_delete"

instance : PipelineSet Operation where
  all := all
  name := name
  list := list
  detail := detail
  create := create
  update := update
  delete := delete

/-- The operation with a given name. -/
def ofName? (name : String) : Option Operation := all.find? fun op => op.name == name

/-- The place among all operations, from zero. -/
def index : Operation → Nat
  | list => 0
  | detail => 1
  | create => 2
  | update => 3
  | delete => 4

/-- The operations with their names. -/
def names : List (String × Operation) := all.map fun op => (op.name, op)

/-- Reads an operation. -/
def decode : Json.Decoder Operation := Json.choice names

@[simp] theorem mem_all (op : Operation) : op ∈ all := by cases op <;> decide

@[simp] theorem ofName?_name (op : Operation) : ofName? op.name = some op := by
  cases op <;> decide

end Operation

end Gatehouse
