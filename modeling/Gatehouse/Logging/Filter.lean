import Gatehouse.Text.Blank
import Gatehouse.Text.Lowercase
import Gatehouse.Text.Table.Letters

/-!
# Log filters

The texts that say what is logged: directives with commas between them. A directive is a level, or
a target with an optional span in brackets and an optional level after an equals sign. Only whether
a text is a filter is decided here.
-/

namespace Gatehouse.LogFilter

/-- The words for levels. -/
def levelWords : List (List Char) :=
  [['o', 'f', 'f'], ['e', 'r', 'r', 'o', 'r'], ['w', 'a', 'r', 'n'], ['i', 'n', 'f', 'o'],
    ['d', 'e', 'b', 'u', 'g'], ['t', 'r', 'a', 'c', 'e']]

/-- Whether a text names a level: a word in any letter case, or a number from zero to five, which
may have a plus sign and leading zeros. -/
def isLevel (cs : List Char) : Bool :=
  let digits := match cs with
    | '+' :: rest => rest
    | _ => cs
  let isNumber := !digits.isEmpty && digits.all Char.isDigit &&
    digits.foldl (fun n c => n * 10 + (c.toNat - 48)) 0 ≤ 5
  isNumber || levelWords.any (Text.sameIgnoringCase cs)

/-- Whether a character may begin a target. Letters and digits of every script do. -/
def beginsTarget (c : Char) : Bool :=
  c.isAlphanum || c = '-' || c = ':' || c = '_' ||
    (128 ≤ c.toNat && Text.inRanges Text.Table.alphanumericRanges c.toNat)

/-- Whether the text from a place on is a level, or nothing. Places are counted without the blanks
before a directive, but found with them, so that such blanks spoil the level of a target. -/
def isLevelFrom (whole : List Char) (place : Nat) : Bool :=
  let level := whole.drop place
  level.isEmpty || isLevel level

/-- What may follow a span: nothing, or an equals sign and a level. -/
def isAfterSpan (whole : List Char) (place : Nat) : List Char → Bool
  | [] => true
  | '=' :: _ => isLevelFrom whole (place + 1)
  | _ => false

/-- The fields of a span up to its closing brace, which must not be empty, then the closing
bracket. -/
def isFields (whole : List Char) (started : Bool) (place : Nat) : List Char → Bool
  | [] => false
  | '\x7d' :: rest =>
    started && match rest with
      | ']' :: after => isAfterSpan whole (place + 2) after
      | _ => false
  | _ :: rest => isFields whole true (place + 1) rest

/-- A span after its opening bracket. -/
def isSpan (whole : List Char) (place : Nat) : List Char → Bool
  | [] => false
  | ']' :: rest => isAfterSpan whole (place + 1) rest
  | '\x7b' :: rest => isFields whole false (place + 1) rest
  | _ :: rest => isSpan whole (place + 1) rest

/-- A level or a target with what follows it. -/
def isTarget (whole : List Char) (place : Nat) : List Char → Bool
  | [] => true
  | '=' :: _ => isLevelFrom whole (place + 1)
  | '[' :: span => isSpan whole (place + 1) span
  | _ :: rest => isTarget whole (place + 1) rest

/-- Whether a text is one directive. -/
def isDirective (whole : List Char) : Bool :=
  match Text.trimChars whole with
  | [] => false
  | '[' :: span => isSpan whole 1 span
  | c :: rest => beginsTarget c && isTarget whole 1 rest

/-- Whether a text is a filter. Empty directives do not count. -/
def isFilter (s : String) : Bool :=
  ((Text.parts ',' s.toList).filter fun d => !d.isEmpty).all isDirective

end Gatehouse.LogFilter
