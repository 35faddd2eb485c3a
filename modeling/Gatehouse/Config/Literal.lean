import Gatehouse.Decimal.Numeral
import Gatehouse.Json.Tree
import Gatehouse.Text.Blank

/-!
# Literals

How a value is written on one line, as in a variable of the environment: truth values, numbers,
lists in square and tables in curly brackets, texts between quotes. Whatever is none of these is a
text as it stands.
-/

namespace Gatehouse.Literal

/-- Whether a character may stand between the parts of a literal. -/
def isSpace (c : Char) : Bool := [' ', '\t', '\n', '\r', '\x0c'].contains c

/-- The characters from the next part on. -/
def skipSpace (cs : List Char) : List Char := cs.dropWhile isSpace

/-- Whether a character belongs to a value without quotes. -/
def isBare (c : Char) : Bool := !([',', '\x7b', '\x7d', '[', ']'].contains c)

/-- Whether a character belongs to a name without quotes. -/
def isNameChar (c : Char) : Bool := c.isAlphanum || c = '_' || c = '-'

/-- The text after a word, if it begins with the word. -/
def afterWord? (word : List Char) (cs : List Char) : Option (List Char) :=
  if word.isPrefixOf cs then some (cs.drop word.length) else none

/-- A text between double quotes, after the opening one: what it says, and what follows it. -/
def readQuoted : Nat → List Char → Option (List Char × List Char)
  | 0, _ => none
  | fuel + 1, cs =>
    match cs with
    | '"' :: rest => some ([], rest)
    | '\\' :: c :: rest =>
      let code (n : Nat) : Option (List Char × List Char) := do
        let digits := rest.take n
        let value ← Numeral.natural? 16 digits
        if digits.length = n ∧ value.isValidChar then
          let (said, after) ← readQuoted fuel (rest.drop n)
          some (Char.ofNat value :: said, after)
        else none
      match c, Json.escaped? c with
      | 'u', _ => code 4
      | 'U', _ => code 8
      | '/', _ => none
      | _, some e => do
        let (said, after) ← readQuoted fuel rest
        some (e :: said, after)
      | _, none => none
    | c :: rest =>
      if (c.toNat < 0x20 && c ≠ '\t') || c = '\x7f' then none
      else do
        let (said, after) ← readQuoted fuel rest
        some (c :: said, after)
    | [] => none

/-- A text between double quotes, from the opening one on. -/
def quoted? : List Char → Option (String × List Char)
  | '"' :: rest => do
    let (said, after) ← readQuoted (rest.length + 1) rest
    some (String.ofList said, after)
  | _ => none

/-- The meaning of a value without quotes: a fraction if it has a point, a whole number if it fits
64 bits, or else a text. -/
def bare (cs : List Char) : Json :=
  match Numeral.fraction? cs with
  | some f =>
    if cs.contains '.' then .num (.float f.toDouble)
    else match Numeral.integer? cs with
      | some i => if Json.isExact i then .int i else .str (String.ofList cs)
      | none => .str (String.ofList cs)
  | none => .str (String.ofList cs)

/-- The name before an equals sign, and what follows the sign. -/
def name? (cs : List Char) : Option (String × List Char) := do
  let cs := skipSpace cs
  let (name, after) ← match cs with
    | '"' :: _ => quoted? cs
    | _ =>
      let name := cs.takeWhile isNameChar
      if name.isEmpty then none else some (String.ofList name, cs.dropWhile isNameChar)
  match skipSpace after with
  | '=' :: after => some (name, after)
  | _ => none

mutual

/-- A value, with the blanks around it. The fuel bounds how often a reader calls another. -/
def readValue : Nat → List Char → Option (Json × List Char)
  | 0, _ => none
  | fuel + 1, cs => do
    let cs := skipSpace cs
    let (value, after) ←
      match afterWord? ['t', 'r', 'u', 'e'] cs, afterWord? ['f', 'a', 'l', 's', 'e'] cs, cs with
      | some after, _, _ => some (Json.bool true, after)
      | none, some after, _ => some (Json.bool false, after)
      | none, none, '[' :: rest => (readItems fuel rest).map fun (xs, after) => (.arr xs, after)
      | none, none, '\x7b' :: rest =>
        (readEntries fuel rest).map fun (ms, after) => (.obj (Members.ofMentions ms), after)
      | none, none, '"' :: _ => (quoted? cs).map fun (s, after) => (.str s, after)
      | none, none, '\'' :: rest =>
        match rest with
        | c :: '\'' :: after => some (.str (String.ofList [c]), after)
        | _ => none
      | none, none, _ => some (bare (Text.trimChars (cs.takeWhile isBare)), cs.dropWhile isBare)
    some (value, skipSpace after)

/-- The items of a list, after its opening bracket or a comma. -/
def readItems : Nat → List Char → Option (List Json × List Char)
  | 0, _ => none
  | fuel + 1, cs =>
    match cs with
    | ']' :: after => some ([], after)
    | _ => do
      let (x, after) ← readValue fuel cs
      match after with
      | ',' :: more =>
        let (xs, after) ← readItems fuel more
        some (x :: xs, after)
      | ']' :: after => some ([x], after)
      | _ => none

/-- The entries of a table, after its opening bracket or a comma. -/
def readEntries : Nat → List Char → Option (List (String × Json) × List Char)
  | 0, _ => none
  | fuel + 1, cs =>
    match cs with
    | '\x7d' :: after => some ([], after)
    | _ => do
      let (k, rest) ← name? cs
      let (x, after) ← readValue fuel rest
      match after with
      | ',' :: more =>
        let (ms, after) ← readEntries fuel more
        some ((k, x) :: ms, after)
      | '\x7d' :: after => some ([(k, x)], after)
      | _ => none

end

/-- The value that a text stands for: itself, unless the whole of it is a literal. -/
def value (s : String) : Json :=
  match readValue (2 * s.length + 2) s.toList with
  | some (x, []) => x
  | _ => .str s

end Gatehouse.Literal
