/-!
# Places in a YAML text

A place is what is left of a text, with the line and the column where it begins. White space between
the words of a scalar is a gap: blanks stay as they are, a single line break becomes one space, and
of several line breaks the first is lost.
-/

namespace Gatehouse.Yaml

/-- What is left of a text, and where it begins; `offset` counts the characters before it. -/
structure Place where
  rest : List Char
  line : Nat
  column : Nat
  offset : Nat

/-- Line breaks written as a newline each: the others are a carriage return, alone or before a
newline, and the character next line. -/
def unifyBreaks : List Char → List Char
  | [] => []
  | '\r' :: '\n' :: cs => '\n' :: unifyBreaks cs
  | c :: cs => (if c = '\r' || c = '\u0085' then '\n' else c) :: unifyBreaks cs

/-- Whether a character may stand in a YAML text. -/
def isAllowed (c : Char) : Bool :=
  let n := c.toNat
  c = '\n' || c = '\t' || (0x20 ≤ n && n ≤ 0x7E) || (0xA0 ≤ n && n ≤ 0xFFFD) || 0x10000 ≤ n

/-- A space or a tab. -/
def isBlank (c : Char) : Bool := c = ' ' || c = '\t'

/-- Whether a word ends where the rest of a text begins: at white space, or at the end. -/
def endsWord : List Char → Bool
  | [] => true
  | c :: _ => isBlank c || c = '\n'

namespace Place

/-- The beginning of a text, after its byte order mark. -/
def start (cs : List Char) : Place :=
  ⟨unifyBreaks (match cs with
    | '\uFEFF' :: cs => cs
    | cs => cs), 0, 0, 0⟩

/-- The place after the next character. -/
def next (p : Place) : Place :=
  match p.rest with
  | [] => p
  | '\n' :: cs => ⟨cs, p.line + 1, 0, p.offset + 1⟩
  | _ :: cs => ⟨cs, p.line, p.column + 1, p.offset + 1⟩

/-- The place `n` characters on. -/
def skip (p : Place) : Nat → Place
  | 0 => p
  | n + 1 => skip p.next n

/-- The first characters for which a test holds, and the place after them. -/
def span (p : Place) (test : Char → Bool) : List Char × Place :=
  let cs := p.rest.takeWhile test
  (cs, p.skip cs.length)

/-- Whether a line that holds `---` or `...` alone, or before white space, begins here. -/
def isMark (p : Place) (c : Char) : Bool :=
  p.column = 0 && match p.rest with
    | a :: b :: d :: rest => a = c && b = c && d = c && endsWord rest
    | _ => false

/-- Whether a document begins or ends here by a mark of its own. -/
def isDocumentMark (p : Place) : Bool := p.isMark '-' || p.isMark '.'

end Place

/-- White space inside a scalar: the characters it stands for, and whether it has a line break. -/
structure Gap where
  joint : List Char
  broken : Bool

/-- The characters for which so many line breaks stand. -/
def foldBreaks : Nat → List Char
  | 0 => []
  | 1 => [' ']
  | n + 2 => List.replicate (n + 1) '\n'

/-- The white space at a place, given the blanks so far and the number of line breaks so far. A tab
left of the column `least` must not stand after a line break. -/
def readGap (least : Nat) : Nat → List Char → Nat → Place → Option (Gap × Place)
  | 0, _, _, _ => none
  | fuel + 1, blanks, breaks, p =>
    match p.rest with
    | '\n' :: _ => readGap least fuel [] (breaks + 1) p.next
    | c :: _ =>
      if !isBlank c then some (⟨if breaks = 0 then blanks else foldBreaks breaks, 0 < breaks⟩, p)
      else if breaks = 0 then readGap least fuel (blanks ++ [c]) 0 p.next
      else if c = '\t' && p.column < least then none
      else readGap least fuel [] breaks p.next
    | [] => some (⟨if breaks = 0 then blanks else foldBreaks breaks, 0 < breaks⟩, p)

/-- The white space at a place. -/
def gap? (least : Nat) (p : Place) : Option (Gap × Place) :=
  readGap least (p.rest.length + 1) [] 0 p

end Gatehouse.Yaml
