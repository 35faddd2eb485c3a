import Gatehouse.Text.Table.Case

/-!
# Lower case

Lower-casing by Unicode's full mapping. Every character maps on its own, with one exception: a
capital sigma at the end of a word becomes the final form of the small sigma.
-/

namespace Gatehouse.Text

/-- Whether a code point lies in one of the runs. -/
def inRanges (ranges : List (Nat × Nat)) (n : Nat) : Bool :=
  ranges.any fun (first, last) => first ≤ n && n ≤ last

/-- Whether a character is upper, lower or title case. -/
def isCased (c : Char) : Bool :=
  if c.toNat < 128 then c.isAlpha else inRanges Table.casedRanges c.toNat

/-- Whether a character is looked through when the end of a word is sought. -/
def isCaseIgnorable (c : Char) : Bool :=
  if c.toNat < 128 then c = '\'' || c = '.' || c = ':' || c = '^' || c.toNat = 0x60
  else inRanges Table.ignorableRanges c.toNat

/-- The lower-case form of one character outside of any context. Only the dotted capital I has a
form of two characters. -/
def lowerChar (c : Char) : List Char :=
  let n := c.toNat
  if n < 128 then [c.toLower]
  else if n = 0x130 then ['i', '\u0307']
  else
    match Table.lowerRuns.find? fun (first, last, step, _) =>
        first ≤ n && n ≤ last && (n - first) % step == 0 with
    | some (_, _, _, offset) => [Char.ofNat (n + offset).toNat]
    | none => [c]

/-- Whether the first character that is not looked through has a case. -/
def casedAfterIgnorable (cs : List Char) : Bool :=
  match cs.dropWhile isCaseIgnorable with
  | [] => false
  | c :: _ => isCased c

/-- Lower-cases `rest`, where `before` holds the characters already passed, nearest first. -/
def lowerFrom (before : List Char) : List Char → List Char
  | [] => []
  | c :: rest =>
    let lowered :=
      if c = 'Σ' then
        if casedAfterIgnorable before && !casedAfterIgnorable rest then ['ς'] else ['σ']
      else lowerChar c
    lowered ++ lowerFrom (c :: before) rest

/-- The lower-case form of a text. -/
def lowerChars (cs : List Char) : List Char :=
  lowerFrom [] cs

/-- The lower-case form of a text. -/
def lowercase (s : String) : String :=
  String.ofList (lowerChars s.toList)

end Gatehouse.Text
