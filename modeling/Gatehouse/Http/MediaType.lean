import Gatehouse.Http.Target
import Gatehouse.Text.Blank

/-!
# Media types

The kind of a body as a header names it: a type and a subtype, of which the part after the last plus
sign is the suffix, and parameters. Case does not matter.
-/

namespace Gatehouse.Http

/-- A media type. The subtype does not include the suffix. -/
structure MediaType where
  type : List Char
  subtype : List Char
  suffix : Option (List Char)

namespace MediaType

/-- Whether a character may stand in quotes. -/
def isQuotedChar (c : Char) : Bool := ' ' ≤ c && c ≠ '\x7f'

/-- Where a reader of parameters stands. -/
inductive ParameterState where
  /-- Before a name. -/
  | start
  | name
  | value
  /-- Right after an opening quote. -/
  | opened
  | quoted
  /-- After a closing quote. -/
  | closed

/-- Reads one character of the parameters. -/
def ParameterState.next? : ParameterState → Char → Option ParameterState
  | .start, c => if c = ' ' then some .start else if isTokenChar c then some .name else none
  | .name, c => if c = '=' then some .value else if isTokenChar c then some .name else none
  | .value, _ => none
  | .opened, c => if isQuotedChar c then some .quoted else none
  | .quoted, c => if c = '"' then some .closed else if isQuotedChar c then some .quoted else none
  | .closed, c => if c = ';' then some .start else if c = ' ' then some .closed else none

/-- Reads the characters of an unquoted value, which may be empty at the very end. -/
def readValue? (started : Bool) : List Char → Option (List Char)
  | [] => some []
  | c :: rest =>
    if c = ';' then if started then some (c :: rest) else none
    else if isTokenChar c then readValue? true rest
    else none

/-- Whether a text is a list of parameters. -/
def areParameters : (fuel : Nat) → ParameterState → List Char → Bool
  | 0, _, _ => false
  | _ + 1, state, [] =>
    match state with
    | .start | .value | .closed => true
    | _ => false
  | fuel + 1, .value, c :: rest =>
    if c = '"' then areParameters fuel .opened rest
    else
      match readValue? false (c :: rest) with
      | none => false
      | some [] => true
      | some (_ :: rest') => areParameters fuel .start rest'
  | fuel + 1, state, c :: rest =>
    match state.next? c with
    | some state' => areParameters fuel state' rest
    | none => false

/-- Reads a media type. Parameters follow a semicolon or a space. -/
def parse? (s : String) : Option MediaType :=
  if s = "*/*" then some ⟨['*'], ['*'], none⟩
  else
    let cs := s.toList.map Char.toLower
    let type := cs.takeWhile isTokenChar
    match cs.drop type.length with
    | '/' :: rest =>
      let name := rest.takeWhile isTokenChar
      let parametersFit := match rest.drop name.length with
        | [] => true
        | c :: tail => (c = ';' || c = ' ') && areParameters (tail.length + 2) .start tail
      if type.isEmpty || !parametersFit || (name.isEmpty && rest ≠ []) then none
      else
        match Text.cutAt '+' name.reverse with
        | some (suffix, before) =>
          if before.isEmpty then some ⟨type, name, none⟩
          else some ⟨type, before.reverse, some suffix.reverse⟩
        | none => some ⟨type, name, none⟩
    | _ => none

/-- The word for JSON. -/
def json : List Char := ['j', 's', 'o', 'n']

/-- Whether a media type is one of the forms of JSON. -/
def isJson (m : MediaType) : Bool :=
  String.ofList m.type = "application" && (m.subtype = json || m.suffix = some json)

end MediaType

end Gatehouse.Http
