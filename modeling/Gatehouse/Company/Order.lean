import Gatehouse.Company.Basic
import Gatehouse.Company.Error
import Gatehouse.Text.Blank

/-!
# Orders of listings

A listing is ordered by a list of keys, each a column and a direction; companies that all keys hold
equal are ordered by identifier, so that the order is total whatever the keys.
-/

namespace Gatehouse

/-- A column by which companies can be ordered. -/
inductive SortField where
  | id
  | updatedAt
  | createdAt
  | name
  | description
  | employees
  | registered
  | legalForm
  deriving DecidableEq

namespace SortField

/-- All columns. -/
def all : List SortField :=
  [id, updatedAt, createdAt, name, description, employees, registered, legalForm]

/-- The name of a column in requests. -/
def text : SortField → String
  | id => "id"
  | updatedAt => "updated_at"
  | createdAt => "created_at"
  | name => "name"
  | description => "description"
  | employees => "amount_of_employees"
  | registered => "registered"
  | legalForm => "type"

/-- The column with a given name. -/
def ofText? (name : String) : Option SortField := all.find? fun f => f.text == name

/-- How two companies compare in a column. Texts compare character by character, by code point. -/
def compare (f : SortField) (a b : Company) : Ordering :=
  match f with
  | id => Ord.compare a.id b.id
  | updatedAt => Ord.compare a.updatedAt b.updatedAt
  | createdAt => Ord.compare a.createdAt b.createdAt
  | name => Ord.compare a.name b.name
  | description => Ord.compare a.description b.description
  | employees => Ord.compare a.employees.toInt b.employees.toInt
  | registered => Ord.compare a.registered b.registered
  | legalForm => Ord.compare a.legalForm b.legalForm

end SortField

/-- A column and a direction. -/
structure SortKey where
  field : SortField
  descending : Bool
  deriving DecidableEq

namespace SortKey

/-- The word for the direction from the least to the greatest. -/
def ascendingWord : List Char := ['a', 's', 'c']

/-- The word for the opposite direction. -/
def descendingWord : List Char := ['d', 'e', 's', 'c']

/-- The written form of a key. -/
def text (k : SortKey) : String := k.field.text ++ if k.descending then " DESC" else " ASC"

/-- Reads a direction, in any letter case. -/
def descending? (cs : List Char) : Option Bool :=
  if Text.sameIgnoringCase cs ascendingWord then some false
  else if Text.sameIgnoringCase cs descendingWord then some true
  else none

/-- Reads a key: the name of a column, a space, and a direction, with blanks around both. -/
def parse? (entry : String) : Option SortKey := do
  let (column, direction) ← Text.cutAt ' ' (Text.trimChars entry.toList)
  let field ← SortField.ofText? (String.ofList column)
  let descending ← descending? (Text.trimChars direction)
  some ⟨field, descending⟩

/-- Reads a key; an entry that is none is quoted in the error. -/
def parse (entry : String) : Except RegistryError SortKey :=
  match parse? entry with
  | some key => .ok key
  | none => .error (.invalid "order_by" s!"must be a valid value: '{entry}'")

/-- Reads keys; the first entry that is none is the error. -/
def parseAll : List String → Except RegistryError (List SortKey)
  | [] => .ok []
  | entry :: entries => do
    let key ← parse entry
    let keys ← parseAll entries
    pure (key :: keys)

/-- How two companies compare by a key. -/
def compare (k : SortKey) (a b : Company) : Ordering :=
  if k.descending then (k.field.compare a b).swap else k.field.compare a b

end SortKey

/-- How two companies compare by a list of keys: by the first that tells them apart, and by
identifier if none does. -/
def compareBy : List SortKey → Company → Company → Ordering
  | [], a, b => compare a.id b.id
  | k :: ks, a, b => (k.compare a b).then (compareBy ks a b)

end Gatehouse
