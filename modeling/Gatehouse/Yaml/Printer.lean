import Gatehouse.Json.Printer
import Gatehouse.Yaml.Place
import Gatehouse.Yaml.Scalar

/-!
# Writing YAML

Values as YAML: a line for each scalar, two more spaces for each level, an item after a dash. A text
is written plain if it then still stands for itself, and between double quotes otherwise.
-/

namespace Gatehouse.Yaml

/-- The words that some readers take for truth values. -/
def doubtfulWords : List String := ["y", "n", "yes", "no", "on", "off"]

/-- The signs with which no plain text begins. -/
def isOpeningSign (c : Char) : Bool :=
  ['-', '?', ':', ',', '[', ']', '\x7b', '\x7d', '#', '&', '*', '!', '|', '>', '\'', '"', '%', '@',
    '\x60'].contains c

/-- Whether a text can be written plain on one line: it has no control characters, no blank at
either end, no colon at the end of a word and no number sign at its beginning. -/
def isSmooth : Char → List Char → Bool
  | before, [] => !isBlank before
  | before, c :: cs =>
    0x20 ≤ c.toNat && isAllowed c && !(isBlank before && c = '#') && !(c = ':' && endsWord cs) &&
      isSmooth c cs

/-- Whether a text may be written plain. -/
def isPlain (cs : List Char) : Bool :=
  match cs with
  | [] => false
  | c :: _ =>
    !isOpeningSign c && !isBlank c && isSmooth ' ' cs &&
      !doubtfulWords.contains (String.ofList (cs.map Char.toLower)) &&
      match resolve cs with
      | .str _ => true
      | _ => false

/-- One character between double quotes. -/
def escapeChar (c : Char) : List Char :=
  match c with
  | '"' => ['\\', '"']
  | '\\' => ['\\', '\\']
  | '\n' => ['\\', 'n']
  | '\r' => ['\\', 'r']
  | '\t' => ['\\', 't']
  | _ =>
    if isAllowed c then [c]
    else '\\' :: 'u' :: (Nat.toDigits 16 (0x10000 + c.toNat)).drop 1

/-- A text, plain or between double quotes. -/
def writeText (s : String) : List Char :=
  if isPlain s.toList then s.toList else '"' :: s.toList.flatMap escapeChar ++ ['"']

/-- Two spaces for each level. -/
def margin (level : Nat) : List Char := List.replicate (2 * level) ' '

mutual

/-- A value after a key at a level: a scalar on the same line, the parts of any other value on lines
of their own. -/
def writeAfterKey (level : Nat) : Json → List Char
  | .obj (m :: ms) => '\n' :: writeMembers (level + 1) (m :: ms)
  | .arr (x :: xs) => '\n' :: writeItems (level + 1) (x :: xs)
  | .obj [] => [' ', '\x7b', '\x7d', '\n']
  | .arr [] => [' ', '[', ']', '\n']
  | .str s => ' ' :: writeText s ++ ['\n']
  | .null => ' ' :: Json.write .null ++ ['\n']
  | .bool b => ' ' :: Json.write (.bool b) ++ ['\n']
  | .num n => ' ' :: Json.write (.num n) ++ ['\n']

/-- The members of a table at a level. -/
def writeMembers (level : Nat) : List (String × Json) → List Char
  | [] => []
  | (k, x) :: ms => margin level ++ writeText k ++ ':' :: writeAfterKey level x ++ writeMembers level ms

/-- The items of a list at a level. -/
def writeItems (level : Nat) : List Json → List Char
  | [] => []
  | x :: xs => margin level ++ '-' :: writeAfterKey level x ++ writeItems level xs

end

/-- The YAML text of a table. -/
def text (ms : Members) : String := String.ofList (writeMembers 0 ms)

end Gatehouse.Yaml
