/-!
# Request targets

What a request is about: a path and perhaps a query. A target is written as a path, as a full
address, as an authority alone, or as an asterisk; a fragment does not count.
-/

namespace Gatehouse.Http

/-- Whether a character may stand in a name of the protocol: a method or the name of a header. -/
def isTokenChar (c : Char) : Bool :=
  c.isAlphanum || c ∈ ['!', '#', '$', '%', '&', '\'', '*', '+', '-', '.', '^', '_', '\x60', '|', '~']

/-- Whether a text is a name of the protocol. -/
def isToken (s : String) : Bool := !s.isEmpty && s.toList.all isTokenChar

/-- A target, as far as it matters: the path as it is written, and the query. -/
structure Target where
  path : List Char
  query : Option (List Char)
  deriving DecidableEq

namespace Target

/-- The length that no target exceeds, in bytes. -/
def maxLength : Nat := 65534

/-- Whether a character may stand in a path. -/
def isPathChar (c : Char) : Bool :=
  c = '!' || ('$' ≤ c && c ≤ ';') || c = '=' || ('@' ≤ c && c ≤ '_') || ('a' ≤ c && c ≤ 'z') ||
    c = '|' || '~' ≤ c || c = '"' || c = '\x7b' || c = '\x7d'

/-- Whether a character may stand in a query. -/
def isQueryChar (c : Char) : Bool := c = '!' || ('$' ≤ c && c ≤ ';') || c = '=' || '?' ≤ c

/-- Reads a path and a query. -/
def ofPath? (cs : List Char) : Option Target :=
  let path := cs.takeWhile fun c => c ≠ '?' && c ≠ '#'
  let query := match cs.drop path.length with
    | '?' :: rest => some (rest.takeWhile (· ≠ '#'))
    | _ => none
  if path.all isPathChar && (query.getD []).all isQueryChar then
    some ⟨if path.isEmpty then ['/'] else path, query⟩
  else none

/-- What was seen of an authority: colons, an opening and a closing bracket, a percent sign. -/
structure AuthorityState where
  colons : Nat
  opened : Bool
  closed : Bool
  percent : Bool

/-- Whether a character may stand in an authority; a percent sign is treated apart. -/
def isAuthorityChar (c : Char) : Bool :=
  c.isAlphanum ||
    c ∈ ['!', '$', '&', '\'', '(', ')', '*', '+', ',', '-', '.', ':', ';', '=', '@', '[', ']', '_', '~']

/-- Reads one character of an authority. What stands before an at sign or between brackets is
forgotten. -/
def AuthorityState.next? (s : AuthorityState) (c : Char) : Option AuthorityState :=
  match c with
  | ':' => if 8 ≤ s.colons then none else some { s with colons := s.colons + 1 }
  | '[' => if s.percent || s.opened then none else some { s with opened := true }
  | ']' => if !s.opened || s.closed then none else some ⟨0, s.opened, true, false⟩
  | '@' => some { s with colons := 0, percent := false }
  | '%' => some { s with percent := true }
  | c => if isAuthorityChar c then some s else none

/-- Whether a text is an authority. -/
def isAuthority (cs : List Char) : Bool :=
  match cs.foldlM AuthorityState.next? ⟨0, false, false, false⟩ with
  | some s => s.opened == s.closed && s.colons ≤ 1 && !s.percent && cs.getLast? ≠ some '@'
  | none => false

/-- Whether a character may stand in a scheme. -/
def isSchemeChar (c : Char) : Bool := c.isAlphanum || c ∈ ['+', '-', '.', '~']

/-- What follows the scheme of a full address; none if there is no scheme. A scheme that is too long
makes the address illegal. -/
def afterScheme? (cs : List Char) : Option (Option (List Char)) :=
  let scheme := cs.takeWhile isSchemeChar
  match cs.drop scheme.length with
  | ':' :: '/' :: '/' :: rest => if 64 < scheme.length then none else some (some rest)
  | _ => some none

/-- Reads a target. -/
def parse? (s : String) : Option Target :=
  match s.toList with
  | [] => none
  | ['*'] => some ⟨['*'], none⟩
  | cs =>
    if maxLength < s.utf8ByteSize then none
    else if cs.head? = some '/' then ofPath? cs
    else
      match afterScheme? cs with
      | none => none
      | some none => if isAuthority cs then some ⟨[], none⟩ else none
      | some (some rest) =>
        let authority := rest.takeWhile fun c => c ≠ '/' && c ≠ '?' && c ≠ '#'
        if authority.isEmpty || !isAuthority authority then none
        else ofPath? (rest.drop authority.length)

end Target

end Gatehouse.Http
