import Gatehouse.Decimal.Numeral
import Gatehouse.Text.Blank
import Gatehouse.Text.Utf8

/-!
# Percent encoding

Bytes written as a percent sign and two hexadecimal digits, among bytes that stand for themselves;
and the pairs of names and values that a query holds.
-/

namespace Gatehouse.Text

/-- The value of a byte that is a hexadecimal digit. -/
def hexDigit? (b : UInt8) : Option UInt8 :=
  (Numeral.digit? 16 (Char.ofNat b.toNat)).map Nat.toUInt8

/-- The bytes that a text in percent encoding stands for. A percent sign without two digits stands
for itself. -/
def percentDecode : List UInt8 → List UInt8
  | [] => []
  | b :: rest =>
    match b, rest with
    | 0x25, x :: y :: rest' =>
      match hexDigit? x, hexDigit? y with
      | some high, some low => (high * 16 + low) :: percentDecode rest'
      | _, _ => 0x25 :: percentDecode (x :: y :: rest')
    | b, rest => b :: percentDecode rest
termination_by bytes => bytes.length

/-- A name or a value of a query: a plus sign is a space, and bytes that are no text are replaced. -/
def queryText (cs : List Char) : String :=
  String.ofList (decodeLossy (percentDecode ((encodeUtf8 cs).map fun b =>
    if b = 0x2B then 0x20 else b)))

/-- The pairs of a query, in order. A pair without an equals sign has an empty value; empty pairs do
not count. -/
def queryPairs (query : List Char) : List (String × String) :=
  ((parts '&' query).filter fun pair => !pair.isEmpty).map fun pair =>
    match cutAt '=' pair with
    | some (name, value) => (queryText name, queryText value)
    | none => (queryText pair, "")

end Gatehouse.Text
