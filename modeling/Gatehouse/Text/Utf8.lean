/-!
# Text as bytes

Reading bytes as UTF-8. A byte that belongs to no character is kept apart, so that a reader can
decide what it means. The shortest encoding is the only one accepted, so each character has one
spelling.
-/

namespace Gatehouse.Text

/-- What the bytes of a text hold in turn: a character, or a byte that belongs to none. -/
inductive Piece where
  | char (c : Char)
  | stray (b : UInt8)

/-- The six bits that a continuation byte carries. -/
def continuation? (b : UInt8) : Option Nat :=
  if 0x80 ≤ b && b < 0xC0 then some (b.toNat - 0x80) else none

/-- The character with a given code point, unless that is a surrogate, too large, or small enough
for a shorter encoding. -/
def charFrom? (least n : Nat) : Option Char :=
  if least ≤ n ∧ n.isValidChar then some (Char.ofNat n) else none

/-- The character at the start of a byte text, with the number of bytes that follow its first. -/
def firstChar? : List UInt8 → Option (Char × Nat)
  | [] => none
  | b :: rest =>
    if b < 0x80 then some (Char.ofNat b.toNat, 0)
    else if b < 0xE0 then do
      let x ← rest[0]?.bind continuation?
      let c ← charFrom? 0x80 ((b.toNat - 0xC0) * 64 + x)
      if 0xC0 ≤ b then some (c, 1) else none
    else if b < 0xF0 then do
      let x ← rest[0]?.bind continuation?
      let y ← rest[1]?.bind continuation?
      let c ← charFrom? 0x800 ((b.toNat - 0xE0) * 4096 + x * 64 + y)
      some (c, 2)
    else do
      let x ← rest[0]?.bind continuation?
      let y ← rest[1]?.bind continuation?
      let z ← rest[2]?.bind continuation?
      let c ← charFrom? 0x10000 ((b.toNat - 0xF0) * 262144 + x * 4096 + y * 64 + z)
      some (c, 3)

/-- The pieces of a byte text. -/
def pieces : List UInt8 → List Piece
  | [] => []
  | b :: rest =>
    match firstChar? (b :: rest) with
    | some (c, extra) => .char c :: pieces (rest.drop extra)
    | none => .stray b :: pieces rest
termination_by bytes => bytes.length
decreasing_by
  all_goals simp only [List.length_drop, List.length_cons]
  all_goals omega

/-- The text that the bytes spell, unless a byte belongs to no character. -/
def decodeUtf8? (bytes : List UInt8) : Option (List Char) :=
  (pieces bytes).mapM fun
    | .char c => some c
    | .stray _ => none

/-- Whether a byte may follow the first byte of a character. The second byte must not make the
character a surrogate, too large, or one with a shorter encoding. -/
def mayFollow (first second : UInt8) : Bool :=
  if first = 0xE0 then 0xA0 ≤ second && second < 0xC0
  else if first = 0xED then 0x80 ≤ second && second < 0xA0
  else if first = 0xF0 then 0x90 ≤ second && second < 0xC0
  else if first = 0xF4 then 0x80 ≤ second && second < 0x90
  else 0x80 ≤ second && second < 0xC0

/-- How many bytes after a first one, which begin no complete character with it, could have been
part of one. -/
def brokenTail (first : UInt8) (rest : List UInt8) : Nat :=
  let length := if first < 0xE0 || 0xF5 ≤ first then 0 else if first < 0xF0 then 1 else 2
  match rest with
  | second :: rest' =>
    if length = 0 || !mayFollow first second then 0
    else if length = 2 && rest'.head?.any fun b => 0x80 ≤ b && b < 0xC0 then 2
    else 1
  | [] => 0

/-- The text that the bytes spell, with one U+FFFD for every beginning of a character that breaks
off, and for every other byte that belongs to no character. -/
def decodeLossy : List UInt8 → List Char
  | [] => []
  | b :: rest =>
    match firstChar? (b :: rest) with
    | some (c, extra) => c :: decodeLossy (rest.drop extra)
    | none => '\uFFFD' :: decodeLossy (rest.drop (brokenTail b rest))
termination_by bytes => bytes.length
decreasing_by
  all_goals simp only [List.length_drop, List.length_cons]
  all_goals omega

/-- The bytes of a text. -/
def encodeUtf8 (cs : List Char) : List UInt8 :=
  (String.ofList cs).toUTF8.toList

end Gatehouse.Text
