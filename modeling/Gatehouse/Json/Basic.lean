import Gatehouse.Decimal.Shortest
import Gatehouse.Text.Quoted

/-!
# JSON values

A JSON value with the members of each object in the order in which they were written. Whole
numbers stay exact from `-2 ^ 63` to `2 ^ 64 - 1`; all other numbers are doubles.
-/

namespace Gatehouse

/-- A number of a JSON text. -/
inductive Number where
  | int (i : Int)
  | float (d : Double)
  deriving DecidableEq

/-- A JSON value. -/
inductive Json where
  | null
  | bool (b : Bool)
  | num (n : Number)
  | str (s : String)
  | arr (items : List Json)
  | obj (members : List (String × Json))

namespace Json

instance : Inhabited Json := ⟨.null⟩

/-- A whole number. -/
def int (i : Int) : Json := .num (.int i)

/-- Whether a whole number is kept exactly. -/
def isExact (i : Int) : Bool := -0x8000000000000000 ≤ i && i < 0x10000000000000000

/-- A natural number. -/
def nat (n : Nat) : Json := .num (.int n)

/-- The value of an optional text. -/
def optional (encode : α → Json) : Option α → Json
  | none => .null
  | some a => encode a

end Json

/-- The members of an object. -/
abbrev Members := List (String × Json)

namespace Members

/-- The value of a member. -/
def get? (name : String) (ms : Members) : Option Json :=
  (ms.find? fun m => m.1 == name).map Prod.snd

/-- Gives a member a value: in its old place if it has one, else at the end. -/
def put (name : String) (value : Json) : Members → Members
  | [] => [(name, value)]
  | m :: ms => if m.1 = name then (name, value) :: ms else m :: put name value ms

/-- Members in the order of their first mention, each with the value mentioned last. -/
def ofMentions (ms : List (String × Json)) : Members :=
  ms.foldl (fun acc m => put m.1 m.2 acc) []

@[simp] theorem get?_nil (name : String) : get? name [] = none := rfl

theorem get?_put_self (name : String) (value : Json) (ms : Members) :
    get? name (put name value ms) = some value := by
  induction ms with
  | nil => simp [put, get?]
  | cons m ms ih =>
    by_cases h : m.1 = name
    · simp [put, get?, h]
    · simpa [put, get?, h] using ih

theorem get?_put_of_ne {name other : String} (value : Json) (ms : Members) (h : other ≠ name) :
    get? other (put name value ms) = get? other ms := by
  induction ms with
  | nil => simp [put, get?, h.symm]
  | cons m ms ih =>
    by_cases hm : m.1 = name
    · have : m.1 ≠ other := fun e => h (e ▸ hm)
      simp [put, get?, hm, h.symm]
    · by_cases ho : m.1 = other
      · simp only [put, if_neg hm, get?, List.find?_cons, beq_iff_eq.2 ho]
      · simpa [put, get?, hm, ho] using ih

end Members

namespace Json

mutual

/-- Equality of values in which the order of an object's members does not count. Two floating
numbers are the same when they compare equal as numbers. -/
def same : Json → Json → Bool
  | .null, .null => true
  | .bool a, .bool b => a == b
  | .num (.int a), .num (.int b) => a == b
  | .num (.float a), .num (.float b) => a.toFloat == b.toFloat
  | .str a, .str b => a == b
  | .arr xs, .arr ys => sameItems xs ys
  | .obj ms, .obj ns => ms.length == ns.length && sameMembers ms ns
  | _, _ => false

/-- Item by item. -/
def sameItems : List Json → List Json → Bool
  | [], [] => true
  | x :: xs, y :: ys => same x y && sameItems xs ys
  | _, _ => false

/-- Whether each member has an equal partner of the same name. -/
def sameMembers : List (String × Json) → Members → Bool
  | [], _ => true
  | (name, x) :: ms, ns =>
    (match Members.get? name ns with
      | some y => same x y
      | none => false) && sameMembers ms ns

end

end Json

end Gatehouse
