import Gatehouse.Rehearsal.World

/-!
# Transcripts

What a rehearsal shows, written down so that two rehearsals can be compared: identifiers that were
given out while it ran are numbered in the order in which they appear, and times that were read off
the clock are named. The numbers can be used in later requests.
-/

namespace Gatehouse.Rehearsal

mutual

/-- The same value with every text in it changed. -/
def mapTexts (f : String → String) : Json → Json
  | .str s => .str (f s)
  | .arr items => .arr (mapItems f items)
  | .obj members => .obj (mapMembers f members)
  | .null => .null
  | .bool b => .bool b
  | .num n => .num n

/-- The same items with every text in them changed. -/
def mapItems (f : String → String) : List Json → List Json
  | [] => []
  | x :: xs => mapTexts f x :: mapItems f xs

/-- The same members with every text in their values changed. -/
def mapMembers (f : String → String) : List (String × Json) → List (String × Json)
  | [] => []
  | (name, x) :: ms => (name, mapTexts f x) :: mapMembers f ms

end

mutual

/-- The texts in a value, in order. -/
def textsOf : Json → List String
  | .str s => [s]
  | .arr items => textsOfItems items
  | .obj members => textsOfMembers members
  | _ => []

/-- The texts in items. -/
def textsOfItems : List Json → List String
  | [] => []
  | x :: xs => textsOf x ++ textsOfItems xs

/-- The texts in the values of members. -/
def textsOfMembers : List (String × Json) → List String
  | [] => []
  | (_, x) :: ms => textsOf x ++ textsOfMembers ms

end

/-- Whether a value is a time that was read off the clock. -/
def isReadTime (w : World) : Json → Bool
  | .str s => (Timestamp.parse? s).any w.isRead
  | _ => false

mutual

/-- Names the times of creation and change that were read off the clock. -/
def nameTimes (w : World) : Json → Json
  | .arr items => .arr (nameTimesOfItems w items)
  | .obj members => .obj (nameTimesOfMembers w ((Members.get? "created_at" members).getD .null) members)
  | .null => .null
  | .bool b => .bool b
  | .num n => .num n
  | .str s => .str s

/-- Names the times in items. -/
def nameTimesOfItems (w : World) : List Json → List Json
  | [] => []
  | x :: xs => nameTimes w x :: nameTimesOfItems w xs

/-- Names the times among members; a change at the time of creation is named for that. -/
def nameTimesOfMembers (w : World) (created : Json) : List (String × Json) → List (String × Json)
  | [] => []
  | (name, x) :: ms =>
    let named :=
      if name == "created_at" && isReadTime w x then .str "now"
      else if name == "updated_at" && isReadTime w x then
        .str (if Json.same created x then "=created" else "now")
      else nameTimes w x
    (name, named) :: nameTimesOfMembers w created ms

end

/-- The part that all identifiers have in common which are given out. -/
def idLead : String := String.ofList ((World.issuedId 0).text.toList.take 24)

/-- A text, cut into the identifiers in it that were given out and what stands between them. -/
def issuedIn (w : World) (s : String) : List (String ⊕ Uuid) :=
  match s.splitOn idLead with
  | [] => []
  | first :: rest => .inl first :: rest.flatMap fun part =>
      let tail := String.ofList (part.toList.take 12)
      match (Uuid.parse? (idLead ++ tail)).filter w.isIssued with
      | some id => [.inr id, .inl (String.ofList (part.toList.drop 12))]
      | none => [.inl (idLead ++ part)]

/-- The identifiers that a transcript has shown so far. -/
abbrev Shown := List Uuid

namespace Shown

/-- Puts identifiers in place of their numbers, which follow a dollar sign. -/
def fill (shown : Shown) (j : Json) : Json :=
  mapTexts (fun s =>
    match s.splitOn "$" with
    | [] => s
    | first :: rest => first ++ String.join (rest.map fun part =>
      let digits := part.toList.takeWhile Char.isDigit
      let number := (String.ofList digits).toNat?.getD 0
      match if number = 0 then none else shown[number - 1]? with
      | some id => id.text ++ String.ofList (part.toList.drop digits.length)
      | none => "$" ++ part)) j

/-- Puts numbers in place of identifiers, and names the times. -/
def mask (shown : Shown) (w : World) (j : Json) : Shown × Json :=
  let found := (textsOf j).flatMap fun s => (issuedIn w s).filterMap Sum.getRight?
  let shown := found.foldl (fun acc id => if acc.contains id then acc else acc ++ [id]) shown
  let hide (s : String) : String := String.join ((issuedIn w s).map fun
    | .inl s => s
    | .inr id => s!"${shown.idxOf id + 1}")
  (shown, mapTexts hide (nameTimes w j))

end Shown

end Gatehouse.Rehearsal
