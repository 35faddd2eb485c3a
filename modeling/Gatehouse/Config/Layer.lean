import Gatehouse.Json.Basic

/-!
# Layers of settings

Settings come in layers, each a value that names some of them. A layer laid over another replaces
what it names: tables are joined member by member, and any other value, lists among them, takes the
place of what lies under it. The members of a joined table are in the order of their names.
-/

namespace Gatehouse

namespace Members

/-- Gives a member a value, in its place in the order of names. -/
def insert (name : String) (value : Json) : Members → Members
  | [] => [(name, value)]
  | m :: ms =>
    if name = m.1 then (name, value) :: ms
    else if name < m.1 then (name, value) :: m :: ms
    else m :: insert name value ms

theorem get?_insert_self (name : String) (value : Json) (ms : Members) :
    get? name (insert name value ms) = some value := by
  induction ms with
  | nil => simp [insert, get?]
  | cons m ms ih =>
    by_cases h : name = m.1
    · simp [insert, get?, h]
    · by_cases lt : name < m.1
      · simp [insert, get?, h, lt]
      · have : ¬ m.1 = name := fun e => h e.symm
        simpa [insert, get?, h, lt, this] using ih

theorem get?_insert_of_ne {name other : String} (value : Json) (ms : Members)
    (h : other ≠ name) : get? other (insert name value ms) = get? other ms := by
  induction ms with
  | nil => simp [insert, get?, h.symm]
  | cons m ms ih =>
    by_cases hm : name = m.1
    · have : m.1 ≠ other := fun e => h (hm ▸ e.symm)
      simp [insert, get?, hm, this]
    · by_cases lt : name < m.1
      · simp [insert, get?, hm, lt, h.symm]
      · by_cases ho : m.1 = other
        · simp only [insert, if_neg hm, if_neg lt, get?, List.find?_cons, beq_iff_eq.2 ho]
        · simpa [insert, get?, hm, lt, ho] using ih

end Members

namespace Layer

/-- The members of a table; anything else has none. -/
def membersOf : Json → Members
  | .obj ms => ms
  | _ => []

mutual

/-- One layer laid over another. -/
def overlay (under : Json) : Json → Json
  | .obj ms => .obj (overlayMembers (membersOf under) ms)
  | .arr xs => .arr (items xs)
  | .null => .null
  | .bool b => .bool b
  | .num n => .num n
  | .str s => .str s

/-- Members laid over those of another table. -/
def overlayMembers (under : Members) : List (String × Json) → Members
  | [] => under
  | (k, x) :: ms => overlayMembers (under.insert k (overlay ((Members.get? k under).getD .null) x)) ms

/-- The items of a list, which replace all others. -/
def items : List Json → List Json
  | [] => []
  | x :: xs => overlay .null x :: items xs

end

/-- A value at the end of a path of names, the outermost first. -/
def nest : List String → Json → Json
  | [], x => x
  | k :: ks, x => .obj [(k, nest ks x)]

end Layer

end Gatehouse
