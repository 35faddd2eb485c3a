import Gatehouse.Text.Blank
import Gatehouse.Text.Utf8

/-!
# Bearer credentials

Taking a credential from a request. A credential is opaque text; blank text is no credential at
all. An `Authorization` value holds one if its scheme is `Bearer` in any letter case.
-/

namespace Gatehouse

/-- A credential as it was presented: text without blanks around it, and not empty. -/
structure Token where
  text : String
  deriving DecidableEq

namespace Token

/-- The credential in a raw text, if it is not blank. -/
def parse? (raw : Option String) : Option Token :=
  (raw.map Text.trim).bind fun s => if s.isEmpty then none else some ⟨s⟩

/-- A credential as debug texts show it: not at all. -/
def describe (_ : Token) : String := "Token(<redacted>)"

end Token

namespace Bearer

/-- The word for the scheme. -/
def scheme : List Char := ['b', 'e', 'a', 'r', 'e', 'r']

/-- The credential of an authorization value: what stands after the first space, if the scheme
before it is the right one. -/
def credential? (value : String) : Option String :=
  match Text.cutAt ' ' (Text.trimChars value.toList) with
  | some (before, after) =>
    if Text.sameIgnoringCase before scheme then some (String.ofList (Text.trimChars after))
    else none
  | none => none

/-- Whether a byte may stand in a header value. -/
def isHeaderByte (b : UInt8) : Bool := b = 9 || (0x20 ≤ b && b != 0x7F)

/-- A header value: bytes none of which is a control character other than the tab. -/
structure HeaderValue where
  bytes : List UInt8
  legal : bytes.all isHeaderByte

/-- The header value with the given bytes. -/
def HeaderValue.of? (bytes : List UInt8) : Option HeaderValue :=
  if h : bytes.all isHeaderByte then some ⟨bytes, h⟩ else none

/-- The text of a header value, if it is visible ASCII, blanks and tabs. -/
def HeaderValue.text? (v : HeaderValue) : Option String :=
  if v.bytes.all fun b => b = 9 || (0x20 ≤ b && b < 0x7F) then
    some (String.ofList (v.bytes.map fun b => Char.ofNat b.toNat))
  else none

/-- The credential of the first of a request's authorization values. Later values do not count. -/
def fromHeaders? (values : List HeaderValue) : Option String :=
  values.head?.bind fun v => v.text?.bind credential?

/-- The credential of the first authorization entry of a remote call's metadata. -/
def fromMetadata? (entries : List HeaderValue) : Option String := do
  let entry ← entries.head?
  let text ← entry.text?
  credential? text

end Bearer

end Gatehouse
