import Gatehouse.Company.Basic

/-!
# Conditions

Checkers beyond the stock ones, for companies: conditions on the caller, on the kind of the target,
or on the name that the target carries. Logs show all of them under one name.
-/

namespace Gatehouse

/-- What a checker demands. -/
inductive Condition where
  /-- Nothing, or the impossible; and every time it is asked it is reported by a mark. -/
  | marked (mark : String) (allow : Bool)
  /-- An attribute of the caller is literally true. -/
  | flag (name : String)
  /-- The caller has this identifier. -/
  | caller (id : String)
  /-- An attribute of the caller has this value. -/
  | claim (name : String) (value : Json)
  /-- The target is of this kind. -/
  | targetKind (kind : String)
  /-- The target carries this name. -/
  | named (name : String)

namespace Condition

/-- The condition that a value describes: one member names the kind and holds what it needs, and a
marked condition says besides whether it allows. -/
def ofJson? : Json → Option Condition
  | .obj members =>
    match members.find? fun m => m.1 != "allow" with
    | some ("spy", .str mark) =>
      let allow := match Members.get? "allow" members with
        | some (.bool b) => b
        | _ => false
      some (.marked mark allow)
    | some ("flag", .str name) => some (.flag name)
    | some ("sub", .str id) => some (.caller id)
    | some ("attr", .arr [.str name, value]) => some (.claim name value)
    | some ("target", .str kind) => some (.targetKind kind)
    | some ("name", .str name) => some (.named name)
    | _ => none
  | _ => none

/-- The name that logs show. -/
def label : String := "custom"

/-- The mark by which a condition is reported. -/
def mark? : Condition → Option String
  | marked mark _ => some mark
  | _ => none

/-- The name that a target carries: that of the draft or the company, or the search text. -/
def nameOf : Target Company.resource → Option String
  | .draft d => some d.name
  | .entity c => some c.name
  | .filter f => f.search

/-- Whether the condition holds of a caller, and of a target if there is one. -/
def holds (c : Condition) (s : Option Subject) (t : Option (Target Company.resource)) : Bool :=
  match c with
  | marked _ allow => allow
  | flag name => s.any fun s => s.flag name
  | caller id => s.any fun s => s.id == id
  | claim name value => (s.bind fun s => s.attribute? name).any fun v => Json.same v value
  | targetKind kind => t.any fun t => t.kind == kind
  | named name => (t.bind nameOf).any fun n => n == name

/-- The condition as a checker of callers alone. -/
def operationChecker (c : Condition) : Checker Unit :=
  ⟨label, c.mark?, fun s _ => c.holds s none⟩

/-- The condition as a checker of callers and targets. -/
def objectChecker (c : Condition) : Checker (Target Company.resource) :=
  ⟨label, c.mark?, fun s t => c.holds s (some t)⟩

end Condition

end Gatehouse
