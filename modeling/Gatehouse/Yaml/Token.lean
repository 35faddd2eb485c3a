import Gatehouse.Text.Blank
import Gatehouse.Yaml.Text

/-!
# Tokens of a YAML text

A YAML text as a list of tokens: its scalars, its signs, and the starts and ends of the blocks that
its indentation makes. What stands before a colon turns out to be a key only at the colon. So every
scalar or bracket that could be a key leaves room for tokens in front of it, which the colon fills.
-/

namespace Gatehouse.Yaml

/-- The two kinds of brackets, for lists and for tables. -/
inductive Bracket where
  | square
  | curly
  deriving DecidableEq

/-- What a tag says: a type of the core schema by its name, a type of the document's own, or a type
that means nothing here. -/
inductive Tag where
  | core (name : String)
  | own
  | foreign

/-- A token. -/
inductive Token where
  | directive
  | documentStart
  | documentEnd
  | listStart
  | tableStart
  | blockEnd
  | opening (b : Bracket)
  | closing (b : Bracket)
  | item
  | separator
  | key
  | value
  | alias (name : List Char)
  | anchor (name : List Char)
  | tag (t : Tag)
  | scalar (plain : Bool) (text : List Char)

/-! ## Names -/

/-- The name of an anchor or an alias, after its sign. -/
def anchorName? (p : Place) : Option (List Char × Place) :=
  let (name, after) := p.span fun c => c.isAlphanum || c = '_' || c = '-'
  let closed := endsWord after.rest ||
    after.rest.head?.any (['?', ':', ',', ']', '\x7d', '%', '@', '\x60'].contains ·)
  if name.isEmpty || !closed then none else some (name, after)

/-- How the full names of the types of the core schema begin. -/
def coreStart : List Char := "tag:yaml.org,2002:".toList

/-- What a tag says, given what follows its first exclamation mark. -/
def Tag.ofChars? (cs : List Char) : Option Tag :=
  match cs with
  | '<' :: rest =>
    match Text.cutAt '>' rest with
    | some (name, []) =>
      if coreStart.isPrefixOf name then some (.core (String.ofList (name.drop coreStart.length)))
      else some (if name.head? = some '!' then .own else .foreign)
    | _ => none
  | '!' :: name => if name.isEmpty then none else some (.core (String.ofList name))
  | _ => if cs.contains '!' then none else some .own

/-- A tag. -/
def tag? (inFlow : Bool) (p : Place) : Option (Tag × Place) := do
  let (cs, after) := p.next.span fun c => !isBlank c && c ≠ '\n' && !(inFlow && isFlowSign c)
  let t ← Tag.ofChars? cs
  if endsWord after.rest || after.rest.head? = some ',' then some (t, after) else none

/-- The place after a directive that gives the version of YAML. No other directive is known. -/
def directive? (p : Place) : Option Place :=
  let (line, after) := p.span (· ≠ '\n')
  let words := (Text.parts ' ' (line.map fun c => if c = '\t' then ' ' else c)).filter (!·.isEmpty)
  match words.map String.ofList with
  | "%YAML" :: version :: more =>
    let commented := (more.head?.map fun w => w.startsWith "#").getD true
    if (version = "1.1" || version = "1.2") && commented then some after else none
  | _ => none

/-! ## The scanner -/

/-- Something that is a key if a colon follows: the place in the output where the tokens of a key
would stand, and where it begins. If it must be a key, its line cannot end without the colon. -/
structure Candidate where
  slot : Nat
  line : Nat
  column : Nat
  offset : Nat
  required : Bool

/-- The state of reading a text: the columns of the open blocks, innermost first; whether a key may
begin here; the candidate for a key, and those outside of each open bracket. -/
structure Scanner where
  place : Place
  out : Array (List Token)
  indents : List Nat
  keyAllowed : Bool
  candidate : Option Candidate
  outer : List (Option Candidate)

namespace Scanner

/-- The beginning of a text. -/
def start (cs : List Char) : Scanner := ⟨.start cs, #[], [], true, none, []⟩

/-- Whether a bracket is open. -/
def inFlow (s : Scanner) : Bool := !s.outer.isEmpty

/-- The first column that is deeper than the innermost block. -/
def least (s : Scanner) : Nat := (s.indents.head?.map (· + 1)).getD 0

/-- Adds a token. -/
def emit (s : Scanner) (t : Token) : Scanner := { s with out := s.out.push [t] }

/-- Gives up the candidate, unless it must be a key. -/
def dropKey (s : Scanner) : Option Scanner :=
  match s.candidate with
  | some c => if c.required then none else some { s with candidate := none }
  | none => some s

/-- Makes what begins here a candidate, if a key may begin here. -/
def offerKey (s : Scanner) : Option Scanner :=
  if !s.keyAllowed then some s
  else do
    let s ← s.dropKey
    let p := s.place
    let required := !s.inFlow && s.indents.head? = some p.column
    some { s with
      candidate := some ⟨s.out.size, p.line, p.column, p.offset, required⟩
      out := s.out.push [] }

/-- Whether a candidate can no longer be a key: a key is short and on one line. -/
def isStale (p : Place) (c : Candidate) : Bool := c.line < p.line || c.offset + 1024 < p.offset

/-- Gives up every candidate that can no longer be a key. -/
def dropStale (s : Scanner) : Option Scanner :=
  let stale (c : Option Candidate) : Bool := c.any (isStale s.place)
  if stale s.candidate && s.candidate.any (·.required) then none
  else if s.outer.any fun c => stale c && c.any (·.required) then none
  else
    let fresh (c : Option Candidate) := if stale c then none else c
    some { s with candidate := fresh s.candidate, outer := s.outer.map fresh }

/-- Closes the blocks that are deeper than a column. -/
def closeBlocks (tooDeep : Nat → Bool) (out : Array (List Token)) :
    List Nat → Array (List Token) × List Nat
  | [] => (out, [])
  | i :: is => if tooDeep i then closeBlocks tooDeep (out.push [.blockEnd]) is else (out, i :: is)

/-- Closes the blocks that are deeper than a column. Inside brackets indentation does not count. -/
def unindent (s : Scanner) (tooDeep : Nat → Bool) : Scanner :=
  if s.inFlow then s
  else
    let (out, indents) := closeBlocks tooDeep s.out s.indents
    { s with out := out, indents := indents }

/-- Opens a block at a column, if it is deeper than the innermost one. -/
def indent (s : Scanner) (column : Nat) (opener : Token) : Scanner × List Token :=
  if !s.inFlow && s.least ≤ column then
    ({ s with indents := column :: s.indents }, [opener])
  else (s, [])

/-- Goes to the next token: past blanks, comments and line breaks. A tab is a blank only where no
key may begin. -/
def skipSpace : Nat → Scanner → Scanner
  | 0, s => s
  | fuel + 1, s =>
    match s.place.rest with
    | ' ' :: _ => skipSpace fuel { s with place := s.place.next }
    | '\t' :: _ =>
      if s.inFlow || !s.keyAllowed then skipSpace fuel { s with place := s.place.next } else s
    | '#' :: _ => skipSpace fuel { s with place := (s.place.span (· ≠ '\n')).2 }
    | '\n' :: _ =>
      skipSpace fuel { s with place := s.place.next, keyAllowed := s.keyAllowed || !s.inFlow }
    | _ => s

/-- A token that stands for `length` characters. -/
def take (s : Scanner) (t : Token) (length : Nat) (keyAllowed : Bool) : Scanner :=
  { s.emit t with place := s.place.skip length, keyAllowed := keyAllowed }

/-- A mark of a document, or the end of the text, which end all blocks. -/
def endBlocks (s : Scanner) : Option Scanner := do
  let s ← (s.unindent fun _ => true).dropKey
  some { s with keyAllowed := false }

/-- An opening bracket. -/
def openBracket (s : Scanner) (b : Bracket) : Option Scanner := do
  let s ← s.offerKey
  some { s.take (.opening b) 1 true with candidate := none, outer := s.candidate :: s.outer }

/-- A closing bracket. -/
def closeBracket (s : Scanner) (b : Bracket) : Option Scanner := do
  let s ← s.dropKey
  match s.outer with
  | c :: outer => some { s.take (.closing b) 1 false with candidate := c, outer := outer }
  | [] => some (s.take (.closing b) 1 false)

/-- The sign of an item of a block, or of a key, which begin a block of their own. -/
def blockSign (s : Scanner) (opener t : Token) (keyAllowed : Bool) : Option Scanner :=
  if !s.inFlow && !s.keyAllowed then none
  else do
    let (s, opened) := s.indent s.place.column opener
    let s ← { s with out := s.out.push opened }.dropKey
    some (s.take t 1 keyAllowed)

/-- The colon before a value: what stands before it is a key. -/
def valueSign (s : Scanner) : Option Scanner :=
  match s.candidate with
  | some c =>
    let (s, opened) := s.indent c.column .tableStart
    let s := { s with out := s.out.setIfInBounds c.slot (opened ++ [Token.key]), candidate := none }
    some (s.take .value 1 false)
  | none =>
    if s.inFlow then some (s.take .value 1 false)
    else if !s.keyAllowed then none
    else
      let (s, opened) := s.indent s.place.column .tableStart
      some ({ s with out := s.out.push opened }.take .value 1 true)

/-- A name or a tag, which may begin a key. -/
def property (s : Scanner) (read : Place → Option (Token × Place)) : Option Scanner := do
  let s ← s.offerKey
  let (t, after) ← read s.place
  some { s.emit t with place := after, keyAllowed := false }

/-- A block of lines. -/
def blockScalar (s : Scanner) (folded : Bool) : Option Scanner := do
  let s ← s.dropKey
  let (text, after) ← block? folded s.least s.place.next
  some { s.emit (.scalar false text) with place := after, keyAllowed := true }

/-- A plain scalar. A key may follow it on a later line. -/
def plainScalar (s : Scanner) : Option Scanner := do
  let s ← s.offerKey
  let (text, broken, after) ← plain? s.inFlow s.least s.place
  some { s.emit (.scalar true text) with place := after, keyAllowed := broken }

/-- Whether a plain scalar may begin with a character, given what follows it. -/
def beginsPlain (inFlow : Bool) (c : Char) (rest : List Char) : Bool :=
  if c = '-' then !endsWord rest
  else if c = '?' || c = ':' then !inFlow && !endsWord rest
  else !([',', '[', ']', '\x7b', '\x7d', '#', '&', '*', '!', '|', '>', '\'', '"', '%', '@', '\x60',
    '\t'].contains c)

/-- The token that begins here; none if there is no more text. -/
def token (s : Scanner) : Option Scanner :=
  let p := s.place
  match p.rest with
  | [] => s.endBlocks
  | c :: rest =>
    if c = '%' && p.column = 0 then do
      let s ← s.endBlocks
      some { s.emit .directive with place := ← directive? p }
    else if p.isMark '-' then do some ((← s.endBlocks).take .documentStart 3 false)
    else if p.isMark '.' then do some ((← s.endBlocks).take .documentEnd 3 false)
    else match c with
      | '[' => s.openBracket .square
      | '\x7b' => s.openBracket .curly
      | ']' => s.closeBracket .square
      | '\x7d' => s.closeBracket .curly
      | ',' => do some ((← s.dropKey).take .separator 1 true)
      | '*' => s.property fun p => (anchorName? p.next).map fun (n, after) => (.alias n, after)
      | '&' => s.property fun p => (anchorName? p.next).map fun (n, after) => (.anchor n, after)
      | '!' => s.property fun p => (tag? s.inFlow p).map fun (t, after) => (.tag t, after)
      | '\'' => s.property fun p => (quoted? false p).map fun (t, after) => (.scalar false t, after)
      | '"' => s.property fun p => (quoted? true p).map fun (t, after) => (.scalar false t, after)
      | _ =>
        if c = '-' && endsWord rest then s.blockSign .listStart .item true
        else if c = '?' && (s.inFlow || endsWord rest) then
          s.blockSign .tableStart .key (!s.inFlow)
        else if c = ':' && (s.inFlow || endsWord rest) then s.valueSign
        else if c = '|' && !s.inFlow then s.blockScalar false
        else if c = '>' && !s.inFlow then s.blockScalar true
        else if beginsPlain s.inFlow c rest then s.plainScalar
        else none

/-- Reads tokens up to the end of the text. -/
def run : Nat → Scanner → Option (List Token)
  | 0, _ => none
  | fuel + 1, s => do
    let s ← (skipSpace (s.place.rest.length + 1) s).dropStale
    let s := s.unindent fun i => s.place.column < i
    let ended := s.place.rest.isEmpty
    let s ← s.token
    if ended then some s.out.toList.flatten else run fuel s

end Scanner

/-- The tokens of a text; none if it has a part that is no token. -/
def tokens? (cs : List Char) : Option (List Token) :=
  let s := Scanner.start cs
  if s.place.rest.all isAllowed then s.run (cs.length + 2) else none

end Gatehouse.Yaml
