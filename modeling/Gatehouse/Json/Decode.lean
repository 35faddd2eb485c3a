import Gatehouse.Json.Tree

/-!
# Decoding JSON

Decoders from trees to typed values. A decoder reports the first fault in the order of the text: a
value of the wrong kind, a member that must not stand there, a missing member (found at the end of
the object), or the place where the text can no longer be read.

Records are described by a `Form`: the fields in their order, each with its decoder and what its
absence means. A record may also be written as an array of its fields.
-/

namespace Gatehouse.Json

/-- One step from a value to a part of it. -/
inductive Step where
  | member (name : String)
  | item (index : Nat)
  deriving DecidableEq

/-- Why a readable value does not fit. -/
inductive Mismatch where
  | kind (found expected : String)
  | range (found expected : String)
  | length (count : Nat) (expected : String)
  | duplicateField (name : String)
  | missingField (name : String)
  | unknownField (name : String) (known : List String)
  | unknownVariant (name : String) (known : List String)
  | noAlternative (type : String)
  | nameless (found : String)
  | refused (text : String)
  deriving DecidableEq

/-- The known names as a message lists them. -/
def oneOf : List String → String
  | [a] => s!"`{a}`"
  | [a, b] => s!"`{a}` or `{b}`"
  | names => "one of " ++ ", ".intercalate (names.map fun n => s!"`{n}`")

/-- What a message says about a value that does not fit. -/
def Mismatch.message : Mismatch → String
  | kind found expected => s!"invalid type: {found}, expected {expected}"
  | range found expected => s!"invalid value: {found}, expected {expected}"
  | length count expected => s!"invalid length {count}, expected {expected}"
  | duplicateField name => s!"duplicate field `{name}`"
  | missingField name => s!"missing field `{name}`"
  | unknownField name known => s!"unknown field `{name}`, expected {oneOf known}"
  | unknownVariant name known => s!"unknown variant `{name}`, expected {oneOf known}"
  | noAlternative type => s!"data did not match any variant of untagged enum {type}"
  | nameless found => s!"invalid type: {found}, expected a name"
  | refused text => text

/-- Why decoding stops: the text cannot be read on, or a part of it does not fit. -/
inductive Fault where
  | cut (c : Cut)
  | mismatch (path : List Step) (what : Mismatch)
  deriving DecidableEq

/-- The same fault, seen from the value of which the faulty one is a part. -/
def Fault.under (step : Step) : Fault → Fault
  | cut c => cut c
  | mismatch path what => mismatch (step :: path) what

/-- The same fault, found in a text: a choice that is not made by a name spoils the text. -/
def Fault.inText : Fault → Fault
  | mismatch _ (.nameless _) => cut .malformed
  | f => f

/-- What a fault says, without the place where it was found. -/
def Fault.message : Fault → String
  | .cut .malformed => "malformed text"
  | .cut .ended => "unexpected end of text"
  | .mismatch _ what => what.message

/-- A decoder of one type. -/
abbrev Decoder (α : Type) := Tree → Except Fault α

/-- The fault of a value that does not fit. -/
def misfit (what : Mismatch) : Except Fault α := .error (.mismatch [] what)

/-- Sees the faults of a part from the whole. -/
def inside (step : Step) (x : Except Fault α) : Except Fault α :=
  x.mapError (Fault.under step)

/-- The fault of a value of another kind than the wanted one, told by its description; a value that
cannot be read is a fault of its own. -/
def mistaken (what : String → Mismatch) (found : Except Cut String) : Except Fault α :=
  match found with
  | .ok description => misfit (what description)
  | .error c => .error (.cut c)

/-- The fault of a value of another kind than the expected one. -/
def expected (what : String) : Decoder α := fun t => mistaken (.kind · what) t.describe

/-- The fault of a text that breaks off. -/
def noCut : Option Break → Except Fault Unit
  | none => .ok ()
  | some b => .error (.cut b.cut)

/-- A text. -/
def string : Decoder String
  | .str (some s) => .ok s
  | t => expected "a string" t

/-- A truth value. -/
def boolean : Decoder Bool
  | .bool b => .ok b
  | t => expected "a boolean" t

/-- A whole number between two bounds. -/
def whole (name : String) (low high : Int) : Decoder Int
  | .num (some (.int i)) =>
    if low ≤ i ∧ i ≤ high then .ok i else misfit (.range s!"integer `{i}`" name)
  | t => expected name t

/-- A natural number of so many bits. -/
def unsigned (bits : Nat) : Decoder Nat := fun t =>
  (whole s!"u{bits}" 0 (Nat.pow 2 bits - 1 : Nat) t).map Int.toNat

/-- A signed number of so many bits. -/
def signed (bits : Nat) : Decoder Int :=
  whole s!"i{bits}" (-(Nat.pow 2 (bits - 1) : Nat)) (Nat.pow 2 (bits - 1) - 1 : Nat)

/-- A value that may be null. -/
def nullable (dec : Decoder α) : Decoder (Option α)
  | .null => .ok none
  | t => (dec t).map some

/-- Decodes items in order, the first with index `i`. -/
def eachItem (dec : Decoder α) : Nat → List Tree → Except Fault (List α)
  | _, [] => .ok []
  | i, t :: ts => do
    let x ← inside (.item i) (dec t)
    let xs ← eachItem dec (i + 1) ts
    pure (x :: xs)

/-- An array. -/
def list (dec : Decoder α) : Decoder (List α)
  | .arr items tail => do
    let xs ← eachItem dec 0 items
    noCut tail
    pure xs
  | t => expected "a sequence" t

/-- Nothing but null. -/
def unit : Decoder Unit
  | .null => .ok ()
  | t => expected "unit" t

/-- The value with a given name. -/
def named (names : List (String × α)) (name : String) : Except Fault α :=
  match names.find? fun n => n.1 == name with
  | some (_, a) => .ok a
  | none => misfit (.unknownVariant name (names.map Prod.fst))

/-- One of a few named values, written as its name or as an object from its name to null. -/
def choice (names : List (String × α)) : Decoder α
  | .str (some s) => named names s
  | .obj ((some k, t) :: more) tail => do
    let a ← inside (.member k) (named names k)
    inside (.member k) (unit t)
    match more, tail with
    | [], none => pure a
    | [], some (.value c) => .error (.cut c)
    | _, _ => .error (.cut .malformed)
  | .obj ((none, _) :: _) _ => .error (.cut .malformed)
  | .obj [] (some (.value c)) => .error (.cut c)
  | .obj [] (some (.key _ found)) => mistaken (.kind · "variant identifier") found
  | .cut _ _ c => .error (.cut c)
  | t => mistaken .nameless t.describe

/-- One of a few named values in a tree that is no text, where it may also be given by its place among
them, and where an object's members after the first do not count. -/
def choiceOrPlace (names : List (String × α)) : Decoder α
  | .num (some (.int i)) =>
    if 0 ≤ i ∧ i < 0x100000000 then
      match names[i.toNat]? with
      | some (_, a) => .ok a
      | none => misfit (.range s!"integer `{i}`" s!"variant index 0 <= i < {names.length}")
    else choice names (.num (some (.int i)))
  | .obj (m :: _) tail => choice names (.obj [m] tail)
  | t => choice names t

mutual

/-- Passes over a value of no interest: only a cut is a fault. -/
def passOver : Tree → Except Fault Unit
  | .cut _ c _ => .error (.cut c)
  | .arr items tail => do
    passItems items
    noCut tail
  | .obj members tail => do
    passMembers members
    noCut tail
  | .null | .bool _ | .num _ | .str _ => .ok ()

/-- Passes over items. -/
def passItems : List Tree → Except Fault Unit
  | [] => .ok ()
  | t :: ts => do
    passOver t
    passItems ts

/-- Passes over members. -/
def passMembers : List (Option String × Tree) → Except Fault Unit
  | [] => .ok ()
  | (_, t) :: ms => do
    passOver t
    passMembers ms

end

/-- Arrays and objects of a text may lie inside each other this deep. -/
def maxDepth : Nat := 127

/-- How deep a value lies: inside so many arrays and objects of a text, or in a value that has been
read before, where there is no limit. -/
inductive Depth where
  | within (outer : Nat)
  | unlimited

namespace Depth

instance (n : Nat) : OfNat Depth n := ⟨within n⟩

/-- Whether no array and no object may begin here. -/
def isFull : Depth → Bool
  | within outer => maxDepth ≤ outer
  | unlimited => false

/-- One array or object deeper. -/
def inner : Depth → Depth
  | within outer => within (outer + 1)
  | unlimited => unlimited

end Depth

mutual

/-- Any value at some depth. -/
def anything (depth : Depth) : Decoder Json
  | .null => .ok .null
  | .bool b => .ok (.bool b)
  | .num (some n) => .ok (.num n)
  | .str (some s) => .ok (.str s)
  | .num none | .str none => .error (.cut .malformed)
  | .cut c _ _ => .error (.cut c)
  | .arr items tail => do
    if depth.isFull then .error (.cut .malformed)
    let xs ← anyItems depth.inner items
    noCut tail
    pure (.arr xs)
  | .obj members tail => do
    if depth.isFull then .error (.cut .malformed)
    let ms ← anyMembers depth.inner members
    noCut tail
    pure (.obj (Members.ofMentions ms))

/-- Items of any kind. -/
def anyItems (depth : Depth) : List Tree → Except Fault (List Json)
  | [] => .ok []
  | t :: ts => do
    let x ← anything depth t
    let xs ← anyItems depth ts
    pure (x :: xs)

/-- Members of any kind. -/
def anyMembers (depth : Depth) : List (Option String × Tree) → Except Fault (List (String × Json))
  | [] => .ok []
  | (none, _) :: _ => .error (.cut .malformed)
  | (some k, t) :: ms => do
    let x ← anything depth t
    let xs ← anyMembers depth ms
    pure ((k, x) :: xs)

end

/-- The members of an object at some depth, of any kind. -/
def object (depth : Depth) : Decoder Members
  | .obj members tail => do
    let ms ← anyMembers depth.inner members
    noCut tail
    pure (Members.ofMentions ms)
  | t => expected "a map" t

/-! ## Records -/

/-- Where a record's fields come from: the members of an object or the items of an array. -/
structure Source where
  find : String → Option Tree
  step : String → Step
  /-- The fault of a field that an array has no item for; none when reading an object. -/
  tooShort : Option (String → Mismatch)

/-- How a record is read: its fields with the check of each, in order, and the record they make. -/
structure Form (α : Type) where
  fields : List (String × (Tree → Except Fault Unit))
  build : Source → Except Fault α

namespace Form

instance : Functor Form where
  map f form := ⟨form.fields, fun src => (form.build src).map f⟩

instance : Pure Form where
  pure a := ⟨[], fun _ => .ok a⟩

instance : Seq Form where
  seq f x := ⟨f.fields ++ (x ()).fields, fun src => do
    let g ← f.build src
    let a ← (x ()).build src
    pure (g a)⟩

/-- A field, with what stands for it when an object lacks it and when an array does. -/
def field (name : String) (dec : Decoder α) (noMember : Except Mismatch α)
    (noItem : Option α) : Form α where
  fields := [(name, fun t => (dec t).map fun _ => ())]
  build src :=
    match src.find name with
    | some t => inside (src.step name) (dec t)
    | none =>
      match src.tooShort with
      | none => noMember.mapError (.mismatch [])
      | some fault =>
        match noItem with
        | some a => .ok a
        | none => misfit (fault name)

/-- A field that must be there. -/
def required (name : String) (dec : Decoder α) : Form α :=
  field name dec (.error (.missingField name)) none

/-- A field that may be null or, in an object, absent. -/
def optional (name : String) (dec : Decoder α) : Form (Option α) :=
  field name (nullable dec) (.ok none) none

/-- A field that may be absent and then has the given value. -/
def withDefault (name : String) (dec : Decoder α) (default : α) : Form α :=
  field name dec (.ok default) (some default)

/-- A field that may be null, or absent everywhere. -/
def absentOk (name : String) (dec : Decoder α) : Form (Option α) :=
  withDefault name (nullable dec) none

end Form

/-- What becomes of a member that the form does not name. -/
inductive Unnamed where
  | refuse
  | pass
  | keep (depth : Depth)

/-- Checks the members of an object in order against the fields of a form, and returns the members
that the form does not name, if they are kept. -/
def scanMembers (fields : List (String × (Tree → Except Fault Unit))) (unnamed : Unnamed) :
    List String → List (Option String × Tree) → Except Fault (List (String × Json))
  | _, [] => .ok []
  | _, (none, _) :: _ => .error (.cut .malformed)
  | seen, (some k, t) :: ms =>
    match fields.find? fun f => f.1 == k with
    | some (_, check) => do
      if seen.contains k then misfit (.duplicateField k)
      inside (.member k) (check t)
      scanMembers fields unnamed (k :: seen) ms
    | none =>
      match unnamed with
      | .refuse => inside (.member k) (misfit (.unknownField k (fields.map Prod.fst)))
      | .pass => do
        passOver t
        scanMembers fields unnamed seen ms
      | .keep depth => do
        let x ← anything depth t
        let xs ← scanMembers fields unnamed seen ms
        pure ((k, x) :: xs)

/-- The members of an object as the source of a record. -/
def Source.ofMembers (members : List (Option String × Tree)) : Source where
  find name := (members.find? fun m => m.1 == some name).map Prod.snd
  step := .member
  tooShort := none

/-- The items of an array as the source of a record. -/
def Source.ofItems (names : List String) (type : String) (items : List Tree) : Source where
  find name := items[names.idxOf name]?
  step name := .item (names.idxOf name)
  tooShort := some fun name =>
    .length (names.idxOf name) s!"{type} with {names.length} elements"

/-- Checks the items of an array in order against the fields of a form. -/
def scanItems : Nat → List (String × (Tree → Except Fault Unit)) → List Tree → Except Fault Unit
  | _, _, [] => .ok ()
  | _, [], _ :: _ => .error (.cut .malformed)
  | i, (_, check) :: fields, t :: ts => do
    inside (.item i) (check t)
    scanItems (i + 1) fields ts

/-- Reads the members of an object by a form; also the members that the form does not name. -/
def Form.ofObject (form : Form α) (unnamed : Unnamed) (members : List (Option String × Tree))
    (tail : Option Break) : Except Fault (α × List (String × Json)) := do
  let rest ← scanMembers form.fields unnamed [] members
  noCut tail
  let a ← form.build (.ofMembers members)
  pure (a, rest)

/-- A record, written as an object or as an array of its fields. -/
def Form.decode (form : Form α) (type : String) (unnamed : Unnamed) : Decoder α
  | .obj members tail => (form.ofObject unnamed members tail).map Prod.fst
  | .arr items tail => do
    scanItems 0 form.fields items
    noCut tail
    form.build (.ofItems (form.fields.map Prod.fst) s!"struct {type}" items)
  | t => expected s!"struct {type}" t

/-- A record in a tree of values that is no text: items for which the record has no field do not
count. -/
def Form.extract (form : Form α) (type : String) : Decoder α
  | .arr items tail => form.decode type .refuse (.arr (items.take form.fields.length) tail)
  | t => form.decode type .refuse t

/-- Decodes a whole text. -/
def decodeChars (dec : Decoder α) (cs : List Char) : Except Fault α := do
  let doc := Document.ofChars cs
  let a ← (dec doc.root).mapError Fault.inText
  noCut (doc.tail.map .value)
  pure a

/-- Decodes a whole text. -/
def decodeText (dec : Decoder α) (s : String) : Except Fault α := decodeChars dec s.toList

end Gatehouse.Json
