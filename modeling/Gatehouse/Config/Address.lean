import Gatehouse.Decimal.Numeral
import Gatehouse.Json.Decode

/-!
# Socket addresses

An IP address of either family with a port, as a listener is told where to listen. The written form
of a version 6 address replaces its longest run of zero groups, and shows an embedded version 4
address as such.
-/

namespace Gatehouse

/-- An IP address: four numbers below 256, or eight groups below 65536 with a scope. -/
inductive IpAddress where
  | v4 (a b c d : UInt8)
  | v6 (groups : Vector UInt16 8) (scope : UInt32)
  deriving DecidableEq

/-- An address with a port. -/
structure SocketAddress where
  ip : IpAddress
  port : UInt16
  deriving DecidableEq

namespace SocketAddress

/-- The two numbers in a group. -/
def halves (g : UInt16) : UInt8 × UInt8 := ((g >>> 8).toUInt8, g.toUInt8)

/-- Whether the numbers of a version 4 address are those of every machine: its own loop, or all that
it has. -/
def isOwnV4 (a b c d : UInt8) : Bool := a = 127 || (a = 0 && b = 0 && c = 0 && d = 0)

/-- Whether every machine has the address, whatever network it is in. -/
def isOwn (a : SocketAddress) : Bool :=
  match a.ip with
  | .v4 x y z w => isOwnV4 x y z w
  | .v6 groups _ =>
    match groups.toList with
    | [0, 0, 0, 0, 0, 0xFFFF, g, h] => isOwnV4 (halves g).1 (halves g).2 (halves h).1 (halves h).2
    | gs => gs.dropLast.all (· = 0) && gs.getLast?.any fun g => g = 0 || g = 1

/-! ## Writing -/

/-- A number in base ten. -/
def decimal (n : Nat) : List Char := Nat.toDigits 10 n

/-- A number in base sixteen. -/
def hexadecimal (n : Nat) : List Char := Nat.toDigits 16 n

/-- A version 4 address. -/
def v4Chars (a b c d : UInt8) : List Char :=
  decimal a.toNat ++ '.' :: decimal b.toNat ++ '.' :: decimal c.toNat ++ '.' :: decimal d.toNat

/-- Groups with a colon between two. -/
def groupChars : List UInt16 → List Char
  | [] => []
  | [g] => hexadecimal g.toNat
  | g :: h :: gs => hexadecimal g.toNat ++ ':' :: groupChars (h :: gs)

/-- The number of zero groups at the start. -/
def zeroRun (gs : List UInt16) : Nat := (gs.takeWhile (· == 0)).length

/-- Where the longest run of zero groups starts, and its length; the first of several. -/
def longestRun (gs : List UInt16) : Nat × Nat :=
  (List.range gs.length).foldl
    (fun best i => let n := zeroRun (gs.drop i); if best.2 < n then (i, n) else best) (0, 0)

/-- A version 6 address. -/
def v6Chars (groups : List UInt16) : List Char :=
  match groups with
  | [0, 0, 0, 0, 0, 0xFFFF, g, h] =>
    [':', ':', 'f', 'f', 'f', 'f', ':'] ++
      v4Chars (halves g).1 (halves g).2 (halves h).1 (halves h).2
  | _ =>
    let (start, length) := longestRun groups
    if 1 < length then
      groupChars (groups.take start) ++ ':' :: ':' :: groupChars (groups.drop (start + length))
    else groupChars groups

/-- The written form. -/
def chars (a : SocketAddress) : List Char :=
  match a.ip with
  | .v4 x y z w => v4Chars x y z w ++ ':' :: decimal a.port.toNat
  | .v6 groups scope =>
    '[' :: v6Chars groups.toList ++
      (if scope = 0 then [] else '%' :: decimal scope.toNat) ++
      ']' :: ':' :: decimal a.port.toNat

/-- The written form. -/
def text (a : SocketAddress) : String := String.ofList a.chars

/-! ## Reading -/

/-- The characters after a given one. -/
def after? (c : Char) : List Char → Option (List Char)
  | [] => none
  | x :: cs => if x = c then some cs else none

/-- The number spelled by the digits at the start of a text: at least one digit and not more than
`most`, and a number below `limit`. -/
def readNumber? (base most limit : Nat) (leadingZero : Bool) (cs : List Char) :
    Option (Nat × List Char) :=
  let digits := cs.takeWhile fun c => (Numeral.digit? base c).isSome
  let value := Numeral.value base digits
  if digits.isEmpty || most < digits.length || limit ≤ value ||
      (!leadingZero && digits.head? = some '0' && 1 < digits.length) then none
  else some (value, cs.drop digits.length)

/-- A version 4 address at the start of a text. -/
def readV4? (cs : List Char) : Option (List Nat × List Char) := do
  let (a, cs) ← readNumber? 10 3 256 false cs
  let (b, cs) ← readNumber? 10 3 256 false (← after? '.' cs)
  let (c, cs) ← readNumber? 10 3 256 false (← after? '.' cs)
  let (d, cs) ← readNumber? 10 3 256 false (← after? '.' cs)
  some ([a, b, c, d], cs)

/-- Reads up to `room` groups, the first without a colon before it if `first` says so. An address
of version 4 may stand for the last two groups, and says so. -/
def readGroups : Nat → Bool → List Char → List Nat × Bool × List Char
  | 0, _, cs => ([], false, cs)
  | room + 1, first, cs =>
    let start := if first then some cs else after? ':' cs
    let embedded := if room = 0 then none else start.bind readV4?
    match embedded with
    | some ([a, b, c, d], rest) => ([a * 256 + b, c * 256 + d], true, rest)
    | _ =>
      match start.bind (readNumber? 16 4 65536 true) with
      | some (g, rest) =>
        let (gs, hasV4, rest) := readGroups room false rest
        (g :: gs, hasV4, rest)
      | none => ([], false, cs)

/-- A version 6 address at the start of a text. -/
def readV6? (cs : List Char) : Option (List Nat × List Char) :=
  let (head, headV4, rest) := readGroups 8 true cs
  if head.length = 8 then some (head, rest)
  else if headV4 then none
  else do
    let rest ← after? ':' rest
    let rest ← after? ':' rest
    let (tail, _, rest) := readGroups (7 - head.length) true rest
    some (head ++ List.replicate (8 - head.length - tail.length) 0 ++ tail, rest)

/-- A colon and a port that end a text. -/
def readPort? (cs : List Char) : Option UInt16 := do
  let (port, rest) ← readNumber? 10 cs.length 65536 true (← after? ':' cs)
  if rest.isEmpty then some port.toUInt16 else none

/-- The scope of an address, zero if none is given. -/
def readScope (cs : List Char) : UInt32 × List Char :=
  match after? '%' cs with
  | none => (0, cs)
  | some rest =>
    match readNumber? 10 rest.length 0x100000000 true rest with
    | some (n, rest) => (n.toUInt32, rest)
    | none => (0, cs)

/-- Reads an address of either family. -/
def ofChars? (cs : List Char) : Option SocketAddress :=
  let asV4 := do
    let (parts, rest) ← readV4? cs
    let port ← readPort? rest
    match parts with
    | [a, b, c, d] => some ⟨.v4 a.toUInt8 b.toUInt8 c.toUInt8 d.toUInt8, port⟩
    | _ => none
  let asV6 := do
    let (groups, rest) ← readV6? (← after? '[' cs)
    let (scope, rest) := readScope rest
    let port ← readPort? (← after? ']' rest)
    let words := groups.map Nat.toUInt16
    if h : words.length = 8 then some ⟨.v6 ⟨words.toArray, by simpa using h⟩ scope, port⟩
    else none
  asV4 <|> asV6

/-- Reads an address. -/
def decode : Json.Decoder SocketAddress
  | .str (some s) =>
    match ofChars? s.toList with
    | some a => .ok a
    | none => Json.misfit (.refused "invalid socket address syntax")
  | t => Json.expected "socket address" t

end SocketAddress

end Gatehouse
