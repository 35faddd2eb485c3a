import Gatehouse.Decimal.Numeral
import Gatehouse.Json.Basic

/-!
# JSON texts as far as they can be read

A JSON text is read into a tree that keeps everything up to the first place where reading has to
stop, and says why it stops there. A reader that works through the tree in order then meets the
first fault of the text, be it a value of the wrong kind or the end of what can be read, exactly
when a reader of the bare characters would.

Two leaves are readable only in part: a text with an escape that denotes no character, and a
number beyond all doubles. Both are faults for a reader that wants the value, and none for one
that passes over it.
-/

namespace Gatehouse.Json

/-- Why reading stops: the next character cannot stand there, or there is none. -/
inductive Cut where
  | malformed
  | ended
  deriving DecidableEq

/-- Where an array or object breaks off: at a value or after one, or where the key of a member has to
stand. There, a reader that takes keys of any kind does not report the cut but what it finds: a
value, as a message describes it, or a cut of its own. -/
inductive Break where
  | value (c : Cut)
  | key (c : Cut) (found : Except Cut String)

/-- What stops a reader of items or members. -/
def Break.cut : Break → Cut
  | value c => c
  | key c _ => c

/-- A JSON text as far as it can be read. An array or object whose text breaks off carries the
break. A value that cannot be read at all is a cut of its own: what a reader of any value reports,
what is reported when the value is passed over, and what a reader reports that takes no words or
numbers and so goes by the first character. -/
inductive Tree where
  | null
  | bool (b : Bool)
  | num (n : Option Number)
  | str (s : Option String)
  | arr (items : List Tree) (tail : Option Break)
  | obj (members : List (Option String × Tree)) (tail : Option Break)
  | cut (read passed glanced : Cut)

instance : Inhabited Tree := ⟨.null⟩

/-- The value as a message names it, or why it cannot be read. -/
def Tree.describe : Tree → Except Cut String
  | .null => .ok "null"
  | .bool b => .ok s!"boolean `{b}`"
  | .num (some (.int i)) => .ok s!"integer `{i}`"
  | .num (some (.float d)) => .ok s!"floating point `{d.text}`"
  | .str (some s) => .ok s!"string {Text.quoted s}"
  | .arr _ _ => .ok "sequence"
  | .obj _ _ => .ok "map"
  | .num none | .str none => .error .malformed
  | .cut c _ _ => .error c

/-- The outcome of reading a part of a text: what was read, and the characters that follow, or why
nothing that follows can be read. -/
abbrev Reading (α : Type) := α × Except Cut (List Char)

/-- Whether a character may stand between the parts of a JSON text. -/
def isSpace (c : Char) : Bool :=
  c = ' ' || c = '\n' || c = '\t' || c = '\r'

/-- The characters from the next part on. -/
def skipSpace (cs : List Char) : List Char := cs.dropWhile isSpace

/-- The value of a hexadecimal digit. -/
def hexValue? (c : Char) : Option Nat := Numeral.digit? 16 c

/-- The four hexadecimal digits of an escape. -/
def readHex4 (cs : List Char) : Except Cut (Nat × List Char) :=
  if (cs.take 4).foldl (fun n c => n + c.utf8Size) 0 < 4 then .error .ended
  else match cs with
    | a :: b :: c :: d :: rest =>
      match hexValue? a, hexValue? b, hexValue? c, hexValue? d with
      | some a, some b, some c, some d => .ok (((a * 16 + b) * 16 + c) * 16 + d, rest)
      | _, _, _, _ => .error .malformed
    | _ => .error .malformed

/-- The character that a one-letter escape stands for. -/
def escaped? (c : Char) : Option Char :=
  match c with
  | '"' => some '"'
  | '\\' => some '\\'
  | '/' => some '/'
  | 'b' => some '\x08'
  | 'f' => some '\x0c'
  | 'n' => some '\n'
  | 'r' => some '\r'
  | 't' => some '\t'
  | _ => none

/-- The character of a `\u` escape, if it denotes one on its own or together with the escape after
it, and the characters that follow. -/
def readUnicode (cs : List Char) : Except Cut (Option Char × List Char) := do
  let (high, rest) ← readHex4 cs
  if 0xD800 ≤ high ∧ high < 0xDC00 then
    match rest with
    | '\\' :: 'u' :: more =>
      match readHex4 more with
      | .ok (low, after) =>
        if 0xDC00 ≤ low ∧ low < 0xE000 then
          pure (some (Char.ofNat (0x10000 + (high - 0xD800) * 1024 + (low - 0xDC00))), after)
        else pure (none, rest)
      | .error _ => pure (none, rest)
    | _ => pure (none, rest)
  else if 0xDC00 ≤ high ∧ high < 0xE000 then pure (none, rest)
  else pure (some (Char.ofNat high), rest)

/-- A text after its opening quote. `said` holds the characters so far, last first, and is none
once an escape has denoted no character. -/
def readChars : Nat → Option (List Char) → List Char → Except Cut (Reading (Option String))
  | 0, _, _ => .error .ended
  | fuel + 1, said, cs =>
    let stop (c : Cut) : Except Cut (Reading (Option String)) :=
      if said.isSome then .error c else .ok (none, .error c)
    match cs with
    | [] => stop .ended
    | '"' :: rest => .ok (said.map fun s => String.ofList s.reverse, .ok rest)
    | '\\' :: 'u' :: rest =>
      match readUnicode rest with
      | .ok (c, after) => readChars fuel (said.bind fun s => c.map (· :: s)) after
      | .error c => stop c
    | ['\\'] => stop .ended
    | '\\' :: c :: rest =>
      match escaped? c with
      | some c => readChars fuel (said.map (c :: ·)) rest
      | none => stop .malformed
    | c :: rest => if c.toNat < 0x20 then stop .malformed else readChars fuel (said.map (c :: ·)) rest

/-- A text after its opening quote. -/
def readString (cs : List Char) : Except Cut (Reading (Option String)) :=
  readChars (cs.length + 1) (some []) cs

/-- The digits at the start of a text. -/
def readDigits (cs : List Char) : List Char × List Char :=
  (cs.takeWhile Char.isDigit, cs.dropWhile Char.isDigit)

/-- The fault of a number that lacks a digit: at the end of the text the reader of the value
misses more text, while passing over calls it malformed. -/
def lacksDigit (rest : List Char) : Tree :=
  .cut (if rest.isEmpty then .ended else .malformed) .malformed .malformed

/-- The leading digits that fit 64 bits, joined to what stands before them, and how many digits
are left. -/
def absorb : List Char → Nat → Nat × Nat
  | [], n => (n, 0)
  | d :: ds, n =>
    let next := n * 10 + (d.toNat - 48)
    if next < 0x10000000000000000 then absorb ds next else (n, (d :: ds).length)

/-- The number with the given digits before the point, digits after it, and power of ten. Whole
numbers are exact while they fit; of any other number the leading digits that fit 64 bits count. -/
def numberOf? (negative : Bool) (whole : List Char) (fractional : Option (List Char))
    (power : Option (Bool × List Char)) : Option Number :=
  let (significand, shifted) := absorb whole 0
  match fractional, power, shifted with
  | none, none, 0 =>
    if !negative then some (.int significand)
    else if significand ≠ 0 ∧ significand ≤ 0x8000000000000000 then some (.int (-(significand : Int)))
    else (Double.ofDecimal? true significand.toUInt64 0).map .float
  | _, _, _ =>
    let digits := fractional.getD []
    let (significand, unread) := absorb digits significand
    let exponent : Int := shifted - (digits.length - unread : Nat)
    let exponent : Int :=
      match power with
      | none => exponent
      | some (down, ds) =>
        let p : Int := (absorb ds 0).1
        if down then exponent - p else exponent + p
    (Double.ofDecimal? negative significand.toUInt64 exponent).map .float

/-- The power of ten of a number, if it has one. -/
def readPower (cs : List Char) : Except Tree (Option (Bool × List Char) × List Char) :=
  match cs with
  | e :: rest =>
    if e = 'e' || e = 'E' then
      let (down, rest) := match rest with
        | '+' :: r => (false, r)
        | '-' :: r => (true, r)
        | r => (false, r)
      let (digits, after) := readDigits rest
      if digits.isEmpty then .error (lacksDigit rest) else .ok (some (down, digits), after)
    else .ok (none, cs)
  | [] => .ok (none, [])

/-- A number whose sign has been read. -/
def readUnsigned (negative : Bool) (cs : List Char) : Reading Tree :=
  let stop (t : Tree) : Reading Tree := (t, .error .malformed)
  let (whole, rest) := readDigits cs
  match whole with
  | [] => stop (lacksDigit rest)
  | '0' :: _ :: _ => stop (.cut .malformed .malformed .malformed)
  | _ =>
    match rest with
    | '.' :: more =>
      let (digits, after) := readDigits more
      if digits.isEmpty then stop (lacksDigit after)
      else match readPower after with
        | .ok (power, after) => (.num (numberOf? negative whole (some digits) power), .ok after)
        | .error t => stop t
    | _ =>
      match readPower rest with
      | .ok (power, after) => (.num (numberOf? negative whole none power), .ok after)
      | .error t => stop t

/-- One of the three words, given the letters after its first. -/
def readWord (value : Tree) : List Char → List Char → Reading Tree
  | [], cs => (value, .ok cs)
  | _ :: _, [] => (.cut .ended .ended .malformed, .error .ended)
  | w :: ws, c :: cs =>
    if c = w then readWord value ws cs else (.cut .malformed .malformed .malformed, .error .malformed)

mutual

/-- The value at the start of a text. The fuel bounds how often a reader calls another. -/
def readValue : Nat → List Char → Reading Tree
  | 0, _ => (.cut .ended .ended .ended, .error .ended)
  | fuel + 1, cs =>
    match skipSpace cs with
    | [] => (.cut .ended .ended .ended, .error .ended)
    | 'n' :: rest => readWord .null ['u', 'l', 'l'] rest
    | 't' :: rest => readWord (.bool true) ['r', 'u', 'e'] rest
    | 'f' :: rest => readWord (.bool false) ['a', 'l', 's', 'e'] rest
    | '"' :: rest =>
      match readString rest with
      | .ok (s, after) => (.str s, after)
      | .error c => (.cut c c c, .error c)
    | '[' :: rest =>
      match skipSpace rest with
      | ']' :: after => (.arr [] none, .ok after)
      | [] => (.arr [] (some (.value .ended)), .error .ended)
      | rest =>
        let (items, tail, after) := readItems fuel rest
        (.arr items tail, after)
    | '\x7b' :: rest =>
      match skipSpace rest with
      | '\x7d' :: after => (.obj [] none, .ok after)
      | [] => (.obj [] (some (.value .ended)), .error .ended)
      | rest =>
        let (members, tail, after) := readMembers fuel rest
        (.obj members tail, after)
    | '-' :: rest => readUnsigned true rest
    | c :: rest =>
      if c.isDigit then readUnsigned false (c :: rest)
      else (.cut .malformed .malformed .malformed, .error .malformed)

/-- The items of an array from one on, and where they break off. A comma at the end of the text
announces an item that cannot be read. -/
def readItems : Nat → List Char → List Tree × Option Break × Except Cut (List Char)
  | 0, _ => ([], some (.value .ended), .error .ended)
  | fuel + 1, cs =>
    match readValue fuel cs with
    | (t, .error c) => ([t], some (.value c), .error c)
    | (t, .ok rest) =>
      match skipSpace rest with
      | ']' :: after => ([t], none, .ok after)
      | ',' :: more =>
        match skipSpace more with
        | ']' :: _ => ([t], some (.value .malformed), .error .malformed)
        | [] => ([t, .cut .ended .ended .ended], some (.value .ended), .error .ended)
        | more =>
          let (items, tail, after) := readItems fuel more
          (t :: items, tail, after)
      | [] => ([t], some (.value .ended), .error .ended)
      | _ => ([t], some (.value .malformed), .error .malformed)

/-- The members of an object from one on, and where they break off. -/
def readMembers : Nat → List Char →
    List (Option String × Tree) × Option Break × Except Cut (List Char)
  | 0, _ => ([], some (.value .ended), .error .ended)
  | fuel + 1, cs =>
    match cs with
    | '"' :: rest =>
      match readString rest with
      | .error c => ([], some (.key c (.error c)), .error c)
      | .ok (key, .error c) => ([(key, .cut c c c)], some (.value c), .error c)
      | .ok (key, .ok rest) =>
        match skipSpace rest with
        | [] => ([(key, .cut .ended .ended .ended)], some (.value .ended), .error .ended)
        | ':' :: rest =>
          match readValue fuel rest with
          | (t, .error c) => ([(key, t)], some (.value c), .error c)
          | (t, .ok rest) =>
            match skipSpace rest with
            | '\x7d' :: after => ([(key, t)], none, .ok after)
            | ',' :: more =>
              match skipSpace more with
              | [] => ([(key, t)], some (.key .ended (.error .ended)), .error .ended)
              | more =>
                let (members, tail, after) := readMembers fuel more
                ((key, t) :: members, tail, after)
            | [] => ([(key, t)], some (.value .ended), .error .ended)
            | _ => ([(key, t)], some (.value .malformed), .error .malformed)
        | _ =>
          ([(key, .cut .malformed .malformed .malformed)], some (.value .malformed),
            .error .malformed)
    | _ => ([], some (.key .malformed (readValue fuel cs).1.describe), .error .malformed)

end

/-- A whole text: its value, and the cut that stands after the value, if more than blanks does. -/
structure Document where
  root : Tree
  tail : Option Cut

/-- Reads a whole text. -/
def Document.ofChars (cs : List Char) : Document :=
  match readValue (2 * cs.length + 2) cs with
  | (t, .error c) => ⟨t, some c⟩
  | (t, .ok rest) => ⟨t, if (skipSpace rest).isEmpty then none else some .malformed⟩

mutual

/-- The tree of a value; nothing in it is cut. -/
def toTree : Json → Tree
  | .null => .null
  | .bool b => .bool b
  | .num n => .num (some n)
  | .str s => .str (some s)
  | .arr items => .arr (toTrees items) none
  | .obj members => .obj (toMemberTrees members) none

/-- The trees of the items of an array. -/
def toTrees : List Json → List Tree
  | [] => []
  | x :: xs => toTree x :: toTrees xs

/-- The trees of the members of an object. -/
def toMemberTrees : List (String × Json) → List (Option String × Tree)
  | [] => []
  | (k, x) :: ms => (some k, toTree x) :: toMemberTrees ms

end

end Gatehouse.Json
