import Gatehouse.Decimal.Numeral
import Gatehouse.Yaml.Place

/-!
# Texts of scalars

How each style of scalar is read from its first character on: plain, between quotes, and as a block
of lines. The outcome is the text and the place after it.
-/

namespace Gatehouse.Yaml

/-! ## Plain -/

/-- The brackets and the comma of lists and tables that are written on one line. -/
def isFlowSign (c : Char) : Bool := [',', '[', ']', '\x7b', '\x7d'].contains c

/-- The characters of a plain scalar up to white space or a sign that ends it. -/
def plainRun (inFlow : Bool) : List Char → List Char
  | [] => []
  | c :: cs =>
    if isBlank c || c = '\n' || (c = ':' && endsWord cs) || (inFlow && isFlowSign c) then []
    else c :: plainRun inFlow cs

/-- Whether a colon stands before a sign that ends a plain scalar; such a colon is neither part of
the scalar nor a sign of its own. -/
def isStrayColon : List Char → Bool
  | ':' :: c :: _ => isFlowSign c || c = '?'
  | _ => false

/-- Whether a run of a plain scalar holds a stray colon. -/
def hasStrayColon : List Char → Nat → Bool
  | cs, 0 => isStrayColon cs
  | [], _ => false
  | c :: cs, n + 1 => isStrayColon (c :: cs) || hasStrayColon cs n

/-- A plain scalar from a word on: what was said before it, and the gap after that. Also tells
whether the last gap, which does not belong to the scalar, has a line break. -/
def readPlain (inFlow : Bool) (least : Nat) :
    Nat → List Char → Gap → Place → Option (List Char × Bool × Place)
  | 0, _, _, _ => none
  | fuel + 1, said, gap, p =>
    if p.isDocumentMark || p.rest.head? = some '#' then some (said, gap.broken, p)
    else
      let run := plainRun inFlow p.rest
      let (said, gap) := if run.isEmpty then (said, gap) else (said ++ gap.joint ++ run, ⟨[], false⟩)
      let after := p.skip run.length
      if inFlow && hasStrayColon p.rest run.length then none
      else if after.rest.isEmpty || !endsWord after.rest then some (said, gap.broken, after)
      else do
        let (more, after) ← gap? least after
        let gap := ⟨more.joint, gap.broken || more.broken⟩
        if !inFlow && after.column < least then some (said, gap.broken, after)
        else readPlain inFlow least fuel said gap after

/-- A plain scalar. -/
def plain? (inFlow : Bool) (least : Nat) (p : Place) : Option (List Char × Bool × Place) :=
  readPlain inFlow least (p.rest.length + 1) [] ⟨[], false⟩ p

/-! ## Between quotes -/

/-- The character that a one-letter escape stands for. -/
def escaped? (c : Char) : Option Char :=
  ([('0', '\x00'), ('a', '\x07'), ('b', '\x08'), ('t', '\t'), ('\t', '\t'), ('n', '\n'),
    ('v', '\x0b'), ('f', '\x0c'), ('r', '\r'), ('e', '\x1b'), (' ', ' '), ('"', '"'), ('/', '/'),
    ('\\', '\\'), ('N', '\u0085'), ('_', '\u00A0'), ('L', '\u2028'),
    ('P', '\u2029')].find? fun e => e.1 == c).map Prod.snd

/-- How many hexadecimal digits follow the letter of an escape that gives a code. -/
def codeLength? (c : Char) : Option Nat :=
  ([('x', 2), ('u', 4), ('U', 8)].find? fun e => e.1 == c).map Prod.snd

/-- The character with the code that so many digits spell. -/
def coded? (digits : List Char) (length : Nat) : Option Char := do
  let n ← Numeral.natural? 16 digits
  if digits.length = length ∧ n.isValidChar then some (Char.ofNat n) else none

/-- The line breaks and blanks after a line break that is escaped: the breaks stay. -/
def afterEscapedBreak (p : Place) : List Char × Place :=
  let (space, after) := p.span fun c => isBlank c || c = '\n'
  (space.filter (· = '\n'), after)

/-- A scalar between quotes, after the opening one. -/
def readQuoted (double : Bool) : Nat → List Char → Place → Option (List Char × Place)
  | 0, _, _ => none
  | fuel + 1, said, p =>
    if p.isDocumentMark then none
    else match double, p.rest with
      | _, [] => none
      | false, '\'' :: '\'' :: _ => readQuoted double fuel (said ++ ['\'']) (p.skip 2)
      | false, '\'' :: _ => some (said, p.next)
      | true, '"' :: _ => some (said, p.next)
      | true, '\\' :: '\n' :: _ =>
        let (breaks, after) := afterEscapedBreak (p.skip 2)
        readQuoted double fuel (said ++ breaks) after
      | true, '\\' :: c :: cs =>
        match escaped? c, codeLength? c with
        | some e, _ => readQuoted double fuel (said ++ [e]) (p.skip 2)
        | none, some n => do
          let e ← coded? (cs.take n) n
          readQuoted double fuel (said ++ [e]) (p.skip (2 + n))
        | none, none => none
      | _, c :: _ =>
        if isBlank c || c = '\n' then do
          let (gap, after) ← gap? 0 p
          readQuoted double fuel (said ++ gap.joint) after
        else
          let (run, after) := p.span fun c => !isBlank c && c ≠ '\n' && c ≠ '\'' && c ≠ '"' && c ≠ '\\'
          if run.isEmpty then readQuoted double fuel (said ++ [c]) p.next
          else readQuoted double fuel (said ++ run) after

/-- A scalar between quotes, from the opening one on. -/
def quoted? (double : Bool) (p : Place) : Option (List Char × Place) :=
  readQuoted double (p.rest.length + 1) [] p.next

/-! ## Blocks of lines -/

/-- What becomes of the line breaks at the end of a block. -/
inductive Chomping where
  | strip
  | clip
  | keep
  deriving DecidableEq

/-- The part of a header that says what becomes of the line breaks at the end. -/
def chomping? : List Char → Option Chomping
  | '-' :: _ => some .strip
  | '+' :: _ => some .keep
  | _ => none

/-- The part of a header that says how far the lines are indented. -/
def indentation? : List Char → Option Nat
  | c :: _ => if '1' ≤ c && c ≤ '9' then some (c.toNat - 48) else none
  | [] => none

/-- The header of a block after its first sign, up to the end of its line. -/
def header? (p : Place) : Option (Chomping × Option Nat × Place) :=
  let first := chomping? p.rest
  let p := if first.isSome then p.next else p
  let step := indentation? p.rest
  let p := if step.isSome then p.next else p
  let last := if first.isSome then none else chomping? p.rest
  let p := if last.isSome then p.next else p
  let (_, after) := p.span isBlank
  let (_, after) := if after.rest.head? = some '#' then after.span (· ≠ '\n') else ([], after)
  match after.rest with
  | [] | '\n' :: _ => some ((first <|> last).getD .clip, step, after.next)
  | _ => none

/-- The empty lines and the indentation before a line of a block: how many line breaks, and how far
the deepest line was indented. A tab must not stand in the indentation. -/
def readIndentation (indent : Option Nat) : Nat → Nat → Nat → Place → Option (Nat × Nat × Place)
  | 0, _, _, _ => none
  | fuel + 1, breaks, deepest, p =>
    let inside : Bool := match indent with
      | some n => p.column < n
      | none => true
    match p.rest with
    | ' ' :: _ =>
      if inside then readIndentation indent fuel breaks (max deepest (p.column + 1)) p.next
      else some (breaks, deepest, p)
    | '\t' :: _ => if inside then none else some (breaks, deepest, p)
    | '\n' :: _ => readIndentation indent fuel (breaks + 1) deepest p.next
    | _ => some (breaks, deepest, p)

/-- The lines of a block: what was said, whether a line break has yet to be said and whether the line
before it began with a blank, and how many line breaks of empty lines have yet to be said. -/
def readLines (folded : Bool) (indent : Nat) :
    Nat → List Char → Bool → Bool → Nat → Place → Option (List Char × Bool × Nat × Place)
  | 0, _, _, _, _, _ => none
  | fuel + 1, said, break?, blankBefore, empty, p =>
    if p.rest.isEmpty || p.column ≠ indent then some (said, break?, empty, p)
    else do
      let blank := (p.rest.head?.map isBlank).getD false
      let joint :=
        if !break? then []
        else if folded && !blankBefore && !blank then if empty = 0 then [' '] else []
        else ['\n']
      let (line, after) := p.span (· ≠ '\n')
      let said := said ++ joint ++ List.replicate empty '\n' ++ line
      let broken := !after.rest.isEmpty
      let (empty, _, after) ← readIndentation (some indent) (after.rest.length + 1) 0 0 after.next
      readLines folded indent fuel said broken blank empty after

/-- A block of lines, after its first sign. The lines are indented by more than the column around
the block, if there is one, which is one less than `least`. -/
def block? (folded : Bool) (least : Nat) (p : Place) : Option (List Char × Place) := do
  let (chomping, step, p) ← header? p
  let given := step.map fun n => (least - 1) + n
  let (empty, deepest, p) ← readIndentation given (p.rest.length + 1) 0 0 p
  let indent := given.getD (max deepest (max least 1))
  let (said, broken, empty, p) ← readLines folded indent (p.rest.length + 1) [] false false empty p
  let ending := match chomping with
    | .strip => []
    | .clip => if broken then ['\n'] else []
    | .keep => (if broken then ['\n'] else []) ++ List.replicate empty '\n'
  some (said ++ ending, p)

end Gatehouse.Yaml
