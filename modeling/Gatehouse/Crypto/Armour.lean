import Gatehouse.Text.Base64
import Gatehouse.Text.Blank
import Gatehouse.Text.Utf8

/-!
# Armoured keys

Binary content wrapped as text between two boundary lines that carry a label. What stands before the
first boundary does not count, nor what follows the second.
-/

namespace Gatehouse.Crypto

/-- A label and the content under it. -/
structure Armoured where
  label : String
  content : List UInt8

namespace Armoured

/-- The bytes before a mark, and those after it. `seen` bytes of the mark have just been read; when
a byte breaks the mark, the search goes on after that byte. -/
def cutFrom (mark : List UInt8) (before : List UInt8) (seen : Nat) :
    List UInt8 → Option (List UInt8 × List UInt8)
  | [] => none
  | b :: rest =>
    if mark[seen]? = some b then
      if seen + 1 = mark.length then some ((before.drop seen).reverse, rest)
      else cutFrom mark (b :: before) (seen + 1) rest
    else cutFrom mark (b :: before) 0 rest

/-- The bytes before a mark, and those after it. -/
def cut? (mark : String) (bytes : List UInt8) : Option (List UInt8 × List UInt8) :=
  cutFrom mark.toUTF8.toList [] 0 bytes

/-- Drops spaces, tabs and line ends. -/
def skipBlank (bytes : List UInt8) : List UInt8 :=
  bytes.dropWhile fun b => b = 0x20 || b = 9 || b = 10 || b = 13

/-- Takes off the lines before the first empty line; they describe the content. -/
def splitHeaders (body : List UInt8) : List UInt8 × List UInt8 :=
  ((cut? "\n\n" body <|> cut? "\r\n\r\n" body).getD ([], body))

/-- The first armoured content of a text. Both boundaries must carry the same label, every
describing line must have a colon, and the rest must be base64. -/
def find? (bytes : List UInt8) : Option Armoured := do
  let (_, bytes) ← cut? "-----BEGIN " bytes
  let (label, bytes) ← cut? "-----" bytes
  let (body, bytes) ← cut? "-----END " (skipBlank bytes)
  let (label', _) ← cut? "-----" bytes
  let (headers, body) := splitHeaders body
  let headers ← Text.decodeUtf8? headers
  let text ← Text.decodeUtf8? body
  if label = [] ∨ label ≠ label' then none
  else if headers ≠ [] ∧ ¬(Text.parts '\n' headers).all (·.contains ':') then none
  else
    let name ← Text.decodeUtf8? label
    let digits := (Text.parts '\n' text).flatMap Text.trimEnd
    return ⟨String.ofList name, ← Text.Base64.armour.decode? digits⟩

end Armoured

end Gatehouse.Crypto
