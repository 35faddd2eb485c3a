/-!
# Timestamps

A moment as the civil date and time at some offset from UTC, in the profile of ISO 8601 that the
Internet uses. Moments are ordered by the instant they denote, whatever their offsets. A leap
second is read as the last nanosecond before it, and only where a leap second can stand: at the end
of a month in UTC. The profile has no offset of a day or more: none is read, and the clock tells
UTC, so no moment has such an offset, and every moment has a written form.
-/

namespace Gatehouse

/-- Whether a year has a 29th of February. -/
def isLeapYear (year : Nat) : Bool := year % 4 == 0 && (year % 100 != 0 || year % 400 == 0)

/-- Days of a month; none for a number that names no month. -/
def daysInMonth (year month : Nat) : Nat :=
  match month with
  | 1 | 3 | 5 | 7 | 8 | 10 | 12 => 31
  | 4 | 6 | 9 | 11 => 30
  | 2 => if isLeapYear year then 29 else 28
  | _ => 0

/-- A day of the Gregorian calendar in the years 0 to 9999. -/
structure Date where
  year : Nat
  month : Nat
  day : Nat
  year_le : year ≤ 9999
  day_pos : 1 ≤ day
  day_le : day ≤ daysInMonth year month
  deriving DecidableEq

namespace Date

/-- The day with the given numbers, if there is one. -/
def of? (year month day : Nat) : Option Date :=
  if h : year ≤ 9999 ∧ 1 ≤ day ∧ day ≤ daysInMonth year month then
    some ⟨year, month, day, h.1, h.2.1, h.2.2⟩
  else none

/-- Days from the first day of the year 0 to the first day of a year. -/
def daysBeforeYear (year : Nat) : Nat :=
  365 * year + (year + 3) / 4 - (year + 99) / 100 + (year + 399) / 400

/-- Days of a year before the first of a month. -/
def daysBeforeMonth (year month : Nat) : Nat :=
  (List.range (month - 1)).foldl (fun days m => days + daysInMonth year (m + 1)) 0

/-- Days since the first day of the year 0. -/
def dayNumber (d : Date) : Nat :=
  daysBeforeYear d.year + daysBeforeMonth d.year d.month + (d.day - 1)

/-- Whether a day number is that of the last day of a month. -/
def endsMonth (number : Int) (near : Nat) : Bool :=
  (List.range 3).any fun i =>
    let year := near + i - 1
    (List.range 12).any fun m =>
      number = (daysBeforeYear year + daysBeforeMonth year (m + 2) : Nat) - 1

end Date

/-- A moment at an offset from UTC, which is given in minutes and reaches up to 23:59. -/
structure Timestamp where
  date : Date
  hour : Nat
  minute : Nat
  second : Nat
  nanos : Nat
  offset : Int
  hour_lt : hour < 24
  minute_lt : minute < 60
  second_lt : second < 60
  nanos_lt : nanos < 1000000000
  offset_lt : offset.natAbs < 24 * 60
  deriving DecidableEq

namespace Timestamp

/-- The moment with the given parts, if there is one. -/
def of? (date : Date) (hour minute second nanos : Nat) (offset : Int) : Option Timestamp :=
  if h : hour < 24 ∧ minute < 60 ∧ second < 60 ∧ nanos < 1000000000 ∧ offset.natAbs < 24 * 60 then
    some ⟨date, hour, minute, second, nanos, offset, h.1, h.2.1, h.2.2.1, h.2.2.2.1, h.2.2.2.2⟩
  else none

/-- The first moment of 1970 in UTC. -/
def epoch : Timestamp where
  date := ⟨1970, 1, 1, by decide, by decide, by decide⟩
  hour := 0
  minute := 0
  second := 0
  nanos := 0
  offset := 0
  hour_lt := by decide
  minute_lt := by decide
  second_lt := by decide
  nanos_lt := by decide
  offset_lt := by decide

instance : Inhabited Timestamp := ⟨epoch⟩

/-- Minutes from the first moment of the year 0, both in UTC. -/
def utcMinutes (t : Timestamp) : Int :=
  (t.date.dayNumber * 1440 + t.hour * 60 + t.minute : Nat) - t.offset

/-- Nanoseconds from the first moment of the year 0, both in UTC. -/
def instant (t : Timestamp) : Int :=
  (t.utcMinutes * 60 + t.second) * 1000000000 + t.nanos

/-- Moments are ordered by their instants. -/
instance : Ord Timestamp := ⟨fun a b => compare a.instant b.instant⟩

/-! ## Writing -/

/-- The lowest `n` decimal digits of a number, highest first. -/
def decimalDigits : Nat → Nat → List Char
  | 0, _ => []
  | n + 1, x => decimalDigits n (x / 10) ++ [Nat.digitChar (x % 10)]

/-- A fraction of a second: a point and the digits up to the last that is not zero. -/
def fractionChars (nanos : Nat) : List Char :=
  if nanos = 0 then []
  else '.' :: ((decimalDigits 9 nanos).reverse.dropWhile (· = '0')).reverse

/-- An offset: `Z` for none, else the sign, hours and minutes. -/
def offsetChars (offset : Int) : List Char :=
  if offset = 0 then ['Z']
  else
    (if offset < 0 then '-' else '+') ::
      decimalDigits 2 (offset.natAbs / 60) ++ ':' :: decimalDigits 2 (offset.natAbs % 60)

/-- The written form. -/
def chars (t : Timestamp) : List Char :=
  decimalDigits 4 t.date.year ++ '-' :: decimalDigits 2 t.date.month ++
    '-' :: decimalDigits 2 t.date.day ++
    'T' :: decimalDigits 2 t.hour ++ ':' :: decimalDigits 2 t.minute ++
    ':' :: decimalDigits 2 t.second ++ fractionChars t.nanos ++ offsetChars t.offset

/-- The written form. -/
def text (t : Timestamp) : String := String.ofList t.chars

/-! ## Reading -/

/-- The value of a decimal digit. -/
def digit? (c : Char) : Option Nat :=
  if '0' ≤ c && c ≤ '9' then some (c.toNat - 48) else none

/-- The number spelled by exactly `n` digits, after `x`. -/
def readDigits? : Nat → Nat → List Char → Option (Nat × List Char)
  | 0, x, cs => some (x, cs)
  | n + 1, x, c :: cs => (digit? c).bind fun d => readDigits? n (x * 10 + d) cs
  | _ + 1, _, [] => none

/-- The characters after a given one. -/
def after? (c : Char) : List Char → Option (List Char)
  | [] => none
  | x :: cs => if x = c then some cs else none

/-- Nanoseconds from the digits of a fraction, each worth `unit`; digits beyond the ninth are worth
nothing. -/
def readFraction : Nat → Nat → List Char → Nat × List Char
  | _, x, [] => (x, [])
  | unit, x, c :: cs =>
    match digit? c with
    | some d => readFraction (unit / 10) (x + d * unit) cs
    | none => (x, c :: cs)

/-- The fraction of a second, if there is one. -/
def readNanos? (cs : List Char) : Option (Nat × List Char) :=
  match cs with
  | '.' :: c :: rest =>
    if (digit? c).isSome then some (readFraction 100000000 0 (c :: rest)) else none
  | ['.'] => none
  | _ => some (0, cs)

/-- An offset in minutes. -/
def readOffset? (cs : List Char) : Option (Int × List Char) :=
  match cs with
  | [] => none
  | sign :: rest =>
    if sign = 'Z' ∨ sign = 'z' then some (0, rest)
    else if sign = '+' ∨ sign = '-' then do
      let (hours, rest) ← readDigits? 2 0 rest
      let rest ← after? ':' rest
      let (minutes, rest) ← readDigits? 2 0 rest
      if hours ≤ 23 ∧ minutes ≤ 59 then
        let total : Int := (hours * 60 + minutes : Nat)
        some (if sign = '-' then -total else total, rest)
      else none
    else none

/-- Whether a moment can stand for a leap second: the last nanosecond of a month in UTC. -/
def standsForLeapSecond (t : Timestamp) : Bool :=
  t.second = 59 && t.nanos = 999999999 && t.utcMinutes % 1440 = 1439 &&
    Date.endsMonth (t.utcMinutes / 1440) t.date.year

/-- Reads the written form. Any one character may stand between the date and the time. -/
def ofChars? (cs : List Char) : Option Timestamp := do
  let (year, cs) ← readDigits? 4 0 cs
  let cs ← after? '-' cs
  let (month, cs) ← readDigits? 2 0 cs
  let cs ← after? '-' cs
  let (day, cs) ← readDigits? 2 0 cs
  let cs ← match cs with
    | c :: rest => if c.toNat < 128 then some rest else none
    | [] => none
  let (hour, cs) ← readDigits? 2 0 cs
  let cs ← after? ':' cs
  let (minute, cs) ← readDigits? 2 0 cs
  let cs ← after? ':' cs
  let (second, cs) ← readDigits? 2 0 cs
  let (nanos, cs) ← readNanos? cs
  let (offset, cs) ← readOffset? cs
  if !cs.isEmpty then none
  let date ← Date.of? year month day
  if second = 60 then
    let t ← of? date hour minute 59 999999999 offset
    if t.standsForLeapSecond then some t else none
  else of? date hour minute second nanos offset

/-- Reads the written form. -/
def parse? (s : String) : Option Timestamp := ofChars? s.toList

end Timestamp

end Gatehouse
