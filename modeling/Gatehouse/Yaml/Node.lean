import Gatehouse.Yaml.Token

/-!
# Nodes of a YAML text

The tree that the tokens of a text describe: scalars, lists and tables, each with its tag. An alias
is a copy of the node that has the name. A text holds one document, or none.
-/

namespace Gatehouse.Yaml

/-- A node. A table keeps its entries as they are written. -/
inductive Node where
  | scalar (tag : Option Tag) (plain : Bool) (text : List Char)
  | list (tag : Option Tag) (items : List Node)
  | table (tag : Option Tag) (entries : List (Node × Node))

/-- What stands for a node that is left out. -/
def Node.absent : Node := .scalar none true []

/-- The tokens that are left, and the nodes that have a name. -/
structure Reading where
  rest : List Token
  anchors : List (List Char × Node)

/-- A step of reading nodes, which may find that the tokens make no sense. -/
abbrev Reader := StateT Reading Option

namespace Reader

/-- The next token, which stays. -/
def peek : Reader (Option Token) := fun r => some (r.rest.head?, r)

/-- Takes the next token away. -/
def drop : Reader Unit := fun r => some ((), { r with rest := r.rest.tail })

/-- The node with a name, the latest of several. -/
def lookup (name : List Char) : Reader Node := fun r =>
  (r.anchors.find? fun a => a.1 == name).map fun a => (a.2, r)

/-- Gives a node a name, if there is one. -/
def remember (name : Option (List Char)) (n : Node) : Reader Unit := fun r =>
  match name with
  | some name => some ((), { r with anchors := (name, n) :: r.anchors })
  | none => some ((), r)

/-- A name, if one comes next. -/
def anchor : Reader (Option (List Char)) := do
  match ← peek with
  | some (.anchor name) =>
    drop
    pure (some name)
  | _ => pure none

/-- A tag, if one comes next. -/
def tag : Reader (Option Tag) := do
  match ← peek with
  | some (.tag t) =>
    drop
    pure (some t)
  | _ => pure none

/-- The name and the tag before a node, in either order. -/
def properties : Reader (Option (List Char) × Option Tag) := do
  let name ← anchor
  let t ← tag
  match name with
  | some _ => pure (name, t)
  | none => pure (← anchor, t)

/-- A node, if the next token is none of those before which it is left out. -/
def unlessNext (isEnd : Token → Bool) (read : Reader Node) : Reader Node := do
  match ← peek with
  | some t => if isEnd t then pure .absent else read
  | none => read

/-- The tokens that end an item of a block. -/
def endsItem : Token → Bool
  | .item | .blockEnd => true
  | _ => false

/-- The tokens that end a key or a value of a block. -/
def endsEntry : Token → Bool
  | .key | .value | .blockEnd => true
  | _ => false

/-- The tokens that end an item of a list that is a value of a block and is not indented. -/
def endsFlushItem (t : Token) : Bool := endsItem t || endsEntry t

/-- The tokens that end a part of a list or a table between brackets. -/
def endsPart (b : Bracket) : Token → Bool
  | .separator => true
  | .closing c => b = c
  | _ => false

/-- The tokens that end a key between brackets. -/
def endsKeyPart (b : Bracket) (t : Token) : Bool :=
  endsPart b t || match t with
    | .value => true
    | _ => false

mutual

/-- A node. Blocks may begin only where `inBlock` says so, and a list may stand flush with the key
before it only where `flush` says so. The fuel bounds how often a reader calls another. -/
def node : Nat → Bool → Bool → Reader Node
  | 0, _, _ => failure
  | fuel + 1, inBlock, flush => do
    match ← peek with
    | some (.alias name) =>
      drop
      lookup name
    | _ =>
      let (name, t) ← properties
      let n ← match ← peek, inBlock, flush with
        | some .item, _, true => Node.list t <$> flushItems fuel
        | some (.scalar plain text), _, _ => do
          drop
          pure (.scalar t plain text)
        | some (.opening .square), _, _ => do
          drop
          Node.list t <$> flowItems fuel true
        | some (.opening .curly), _, _ => do
          drop
          Node.table t <$> flowEntries fuel true
        | some .listStart, true, _ => do
          drop
          Node.list t <$> blockItems fuel
        | some .tableStart, true, _ => do
          drop
          Node.table t <$> blockEntries fuel
        | _, _, _ => if name.isSome || t.isSome then pure (.scalar t true []) else failure
      remember name n
      pure n

/-- The items of a list that is a block of its own. -/
def blockItems : Nat → Reader (List Node)
  | 0 => failure
  | fuel + 1 => do
    match ← peek with
    | some .item =>
      drop
      let n ← unlessNext endsItem (node fuel true false)
      pure (n :: (← blockItems fuel))
    | some .blockEnd =>
      drop
      pure []
    | _ => failure

/-- The items of a list that stands flush with the key before it. -/
def flushItems : Nat → Reader (List Node)
  | 0 => failure
  | fuel + 1 => do
    match ← peek with
    | some .item =>
      drop
      let n ← unlessNext endsFlushItem (node fuel true false)
      pure (n :: (← flushItems fuel))
    | _ => pure []

/-- The entries of a table that is a block. -/
def blockEntries : Nat → Reader (List (Node × Node))
  | 0 => failure
  | fuel + 1 => do
    match ← peek with
    | some .key =>
      drop
      let k ← unlessNext endsEntry (node fuel true true)
      let v ← valuePart fuel endsEntry true
      pure ((k, v) :: (← blockEntries fuel))
    | some .blockEnd =>
      drop
      pure []
    | _ => failure

/-- The value after a key, if there is one. -/
def valuePart : Nat → (Token → Bool) → Bool → Reader Node
  | 0, _, _ => failure
  | fuel + 1, isEnd, inBlock => do
    match ← peek with
    | some .value =>
      drop
      unlessNext isEnd (node fuel inBlock inBlock)
    | _ => pure .absent

/-- The items of a list between brackets. An item may be a table of one entry. -/
def flowItems : Nat → Bool → Reader (List Node)
  | 0, _ => failure
  | fuel + 1, first => do
    match ← peek, first with
    | some (.closing .square), _ =>
      drop
      pure []
    | some .separator, true => failure
    | t, _ =>
      unless first do
        match t with
        | some .separator => drop
        | _ => failure
      match ← peek with
      | some (.closing .square) =>
        drop
        pure []
      | some .key =>
        drop
        let k ← unlessNext (endsKeyPart .square) (node fuel false false)
        let v ← valuePart fuel (endsPart .square) false
        pure (.table none [(k, v)] :: (← flowItems fuel false))
      | _ =>
        let n ← node fuel false false
        pure (n :: (← flowItems fuel false))

/-- The entries of a table between brackets. -/
def flowEntries : Nat → Bool → Reader (List (Node × Node))
  | 0, _ => failure
  | fuel + 1, first => do
    match ← peek, first with
    | some (.closing .curly), _ =>
      drop
      pure []
    | some .separator, true => failure
    | t, _ =>
      unless first do
        match t with
        | some .separator => drop
        | _ => failure
      match ← peek with
      | some (.closing .curly) =>
        drop
        pure []
      | some .key =>
        drop
        let k ← unlessNext (endsKeyPart .curly) (node fuel false false)
        let v ← valuePart fuel (endsPart .curly) false
        pure ((k, v) :: (← flowEntries fuel false))
      | _ =>
        let k ← node fuel false false
        pure ((k, .absent) :: (← flowEntries fuel false))

end

/-- Whether a token cannot begin the content of a document. -/
def endsDocument : Token → Bool
  | .directive | .documentStart | .documentEnd => true
  | _ => false

/-- The content of a document after its first mark. -/
def content (fuel : Nat) : Reader Node := do
  match ← peek with
  | none => pure .absent
  | some _ => unlessNext endsDocument (node fuel true false)

/-- The only document of a text. -/
def document (fuel : Nat) : Reader Node := do
  let n ← match ← peek with
    | some .directive => do
      drop
      match ← peek with
      | some .documentStart =>
        drop
        content fuel
      | _ => failure
    | some .documentStart => do
      drop
      content fuel
    | some _ => node fuel true false
    | none => pure .absent
  fun r =>
    let left := r.rest.dropWhile fun
      | .documentEnd => true
      | _ => false
    if left.isEmpty then some (n, r) else none

end Reader

/-- The node that a text describes; an empty text describes an absent one. -/
def Node.ofChars? (cs : List Char) : Option Node := do
  let tokens ← tokens? cs
  let (n, _) ← (Reader.document (2 * tokens.length + 2)).run ⟨tokens, []⟩
  some n

end Gatehouse.Yaml
