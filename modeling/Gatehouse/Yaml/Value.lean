import Gatehouse.Yaml.Node
import Gatehouse.Yaml.Scalar

/-!
# Values of a YAML text

What the nodes of a YAML text stand for, as JSON values. Not every node stands for one: a key must
be a scalar, and a value of a type of the document's own means nothing here.
-/

namespace Gatehouse.Yaml

/-- The value of a scalar: what its tag demands, or else what its text means if it is plain. -/
def scalarValue? (tag : Option Tag) (plain : Bool) (text : List Char) : Option Json :=
  match tag with
  | some .own => none
  | some (.core "bool") => (truth? text).map .bool
  | some (.core "int") => (integer? text).map wholeNumber
  | some (.core "float") => (double? text).map fun d => .num (.float d)
  | some (.core "null") => if nullWords.contains (String.ofList text) then some .null else none
  | some (.core _) | some .foreign => some (.str (String.ofList text))
  | none => some (if plain then resolve text else .str (String.ofList text))

/-- Whether a list or table with a tag can be read. -/
def isReadable : Option Tag → Bool
  | some .own => false
  | _ => true

/-- The text of a key. -/
def Node.key? : Node → Option String
  | .scalar _ _ text => some (String.ofList text)
  | _ => none

/-- Lists and tables may lie inside each other this deep. -/
def maxDepth : Nat := 128

mutual

/-- The value of a node with room for `room` levels of lists and tables. -/
def Node.value? (room : Nat) : Node → Option Json
  | .scalar tag plain text => scalarValue? tag plain text
  | .list tag items => do
    guard (isReadable tag && 0 < room)
    some (.arr (← itemValues? (room - 1) items))
  | .table tag entries => do
    guard (isReadable tag && 0 < room)
    some (.obj (Members.ofMentions (← entryValues? (room - 1) entries)))

/-- The values of items. -/
def itemValues? (room : Nat) : List Node → Option (List Json)
  | [] => some []
  | n :: ns => do
    let x ← n.value? room
    let xs ← itemValues? room ns
    some (x :: xs)

/-- The names and values of entries. -/
def entryValues? (room : Nat) : List (Node × Node) → Option (List (String × Json))
  | [] => some []
  | (k, n) :: es => do
    let name ← k.key?
    let x ← n.value? room
    let xs ← entryValues? room es
    some ((name, x) :: xs)

end

/-- The members of the table that a text describes, each name with its last value. An empty text
describes an empty table. -/
def members? (s : String) : Option Members := do
  match ← Node.ofChars? s.toList with
  | .scalar _ true [] => some []
  | .table _ entries => (entryValues? (maxDepth - 1) entries).map Members.ofMentions
  | _ => none

end Gatehouse.Yaml
