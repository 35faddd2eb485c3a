import Gatehouse.Json.Decode
import Gatehouse.Json.Printer

/-!
# Reading what was written

The reader of JSON texts takes back what the writer puts down: every text, with its escapes, every
whole number that is kept exactly, and arrays and objects of such values. Doubles are left out, as
nothing that is sent over the wire holds one.
-/

namespace Gatehouse.Json

/-! ## Texts -/

theorem hexValue?_digitChar : ∀ d < 16, hexValue? (Nat.digitChar d) = some d := by decide

theorem utf8Size_digitChar : ∀ d < 16, (Nat.digitChar d).utf8Size = 1 := by decide

/-- The code of a control character is read as this character. -/
theorem readUnicode_code {c : Char} (h : c.toNat < 0x20) (rest : List Char) :
    readUnicode
      ('0' :: '0' :: Nat.digitChar (c.toNat / 16) :: Nat.digitChar (c.toNat % 16) :: rest) =
      .ok (some c, rest) := by
  have hhigh : c.toNat / 16 < 16 := by omega
  have hlow : c.toNat % 16 < 16 := Nat.mod_lt _ (by decide)
  have hcode : readHex4
      ('0' :: '0' :: Nat.digitChar (c.toNat / 16) :: Nat.digitChar (c.toNat % 16) :: rest) =
      .ok (c.toNat, rest) := by
    have hzero : hexValue? '0' = some 0 := rfl
    have hsize : Char.utf8Size '0' = 1 := rfl
    simp only [readHex4, List.take_succ_cons, List.take_zero, List.foldl_cons, List.foldl_nil,
      utf8Size_digitChar _ hhigh, utf8Size_digitChar _ hlow, hzero, hsize,
      hexValue?_digitChar _ hhigh, hexValue?_digitChar _ hlow]
    rw [if_neg (by decide)]
    congr 2
    omega
  simp only [readUnicode, hcode]
  show (if 0xD800 ≤ c.toNat ∧ c.toNat < 0xDC00 then _ else
    if 0xDC00 ≤ c.toNat ∧ c.toNat < 0xE000 then _ else _) = _
  rw [if_neg (by omega), if_neg (by omega), Char.ofNat_toNat]
  rfl

/-- One character of a written text is read in one go. -/
theorem readChars_escapeChar (fuel : Nat) (said : List Char) (c : Char) (rest : List Char) :
    readChars (fuel + 1) (some said) (escapeChar c ++ rest) =
      readChars fuel (some (c :: said)) rest := by
  have hletter {letter : Char} {n : Nat} (hn : c.toNat = n) (hu : letter ≠ 'u')
      (hl : escaped? letter = some (Char.ofNat n)) :
      readChars (fuel + 1) (some said) ('\\' :: letter :: rest) =
        readChars fuel (some (c :: said)) rest := by
    rw [← hn, Char.ofNat_toNat] at hl
    rw [readChars.eq_def]
    simp [hl]
  unfold escapeChar
  split
  case isTrue h => exact hletter (n := '"'.toNat) (h ▸ rfl) (by decide) rfl
  case isFalse hquote =>
  split
  case isTrue h => exact hletter (n := '\\'.toNat) (h ▸ rfl) (by decide) rfl
  case isFalse hslash =>
  split
  case isTrue h =>
    rw [readChars.eq_def]
    simp [hslash, Nat.not_lt.mpr h]
  case isFalse h =>
  -- the control characters, five of which have a letter
  repeat' split
  iterate 5
    next hn => exact hletter hn (by decide) rfl
  rw [escapeCode, readChars.eq_def]
  simp [readUnicode_code (Nat.not_le.mp h)]

/-- A written text is read back, whatever stands behind it. -/
theorem readChars_flatMap (s said rest : List Char) {fuel : Nat} (h : s.length < fuel) :
    readChars fuel (some said) (s.flatMap escapeChar ++ '"' :: rest) =
      .ok (some (String.ofList (said.reverse ++ s)), .ok rest) := by
  induction s generalizing said fuel with
  | nil =>
    obtain ⟨fuel, rfl⟩ := Nat.exists_eq_add_of_lt h
    simp [readChars.eq_def]
  | cons c s ih =>
    obtain ⟨fuel, rfl⟩ := Nat.exists_eq_succ_of_ne_zero (Nat.ne_zero_of_lt h)
    rw [List.flatMap_cons, List.append_assoc, readChars_escapeChar,
      ih (c :: said) (Nat.lt_of_succ_lt_succ h)]
    simp

theorem length_le_flatMap_escapeChar (s : List Char) :
    s.length ≤ (s.flatMap escapeChar).length := by
  induction s with
  | nil => exact Nat.le_refl _
  | cons c s ih =>
    have hone : 1 ≤ (escapeChar c).length := by
      unfold escapeChar
      repeat' split
      all_goals simp [escapeCode]
    rw [List.flatMap_cons, List.length_append, List.length_cons]
    omega

theorem readString_write (s : String) (rest : List Char) :
    readString (s.toList.flatMap escapeChar ++ '"' :: rest) = .ok (some s, .ok rest) := by
  have hfuel : s.toList.length <
      (s.toList.flatMap escapeChar ++ '"' :: rest).length + 1 := by
    have := length_le_flatMap_escapeChar s.toList
    rw [List.length_append]
    omega
  rw [readString, readChars_flatMap s.toList [] rest hfuel]
  simp

/-! ## Whole numbers -/

/-- What can stand behind a number without becoming part of it. -/
def Stops : List Char → Prop
  | [] => True
  | c :: _ => c.isDigit = false ∧ c ≠ '.' ∧ c ≠ 'e' ∧ c ≠ 'E'

theorem readDigits_append {ds rest : List Char} (hds : ∀ c ∈ ds, c.isDigit) (hrest : Stops rest) :
    readDigits (ds ++ rest) = (ds, rest) := by
  have hstop : rest.takeWhile Char.isDigit = [] ∧ rest.dropWhile Char.isDigit = rest := by
    cases rest with
    | nil => exact ⟨rfl, rfl⟩
    | cons c rest => simp [hrest.1]
  rw [readDigits, List.takeWhile_append_of_pos hds, List.dropWhile_append_of_pos hds, hstop.1,
    hstop.2, List.append_nil]

/-- Digits that spell a number of 64 bits count to the last. -/
theorem absorb_of_lt {ds : List Char} {n : Nat}
    (h : Nat.ofDigitChars 10 ds n < 0x10000000000000000) :
    absorb ds n = (Nat.ofDigitChars 10 ds n, 0) := by
  induction ds generalizing n with
  | nil => simp [absorb]
  | cons d ds ih =>
    have hnext : n * 10 + (d.toNat - 48) = 10 * n + (d.toNat - '0'.toNat) := by
      rw [Nat.mul_comm]
      rfl
    rw [Nat.ofDigitChars_cons, ← hnext] at h ⊢
    have hle : n * 10 + (d.toNat - 48) ≤ Nat.ofDigitChars 10 ds (n * 10 + (d.toNat - 48)) := by
      rw [Nat.ofDigitChars_eq_ofDigitChars_zero]
      exact Nat.le_add_right_of_le (Nat.le_mul_of_pos_left _ (Nat.pow_pos (by decide)))
    simp only [absorb]
    rw [if_pos (Nat.lt_of_le_of_lt hle h), ih h]

theorem isDigit_of_mem {c : Char} {n : Nat} (h : c ∈ Nat.toDigits 10 n) : c.isDigit :=
  Nat.isDigit_of_mem_toDigits (by decide) (by decide) h

/-- A number is written with one digit at least. -/
theorem toDigits_cons (n : Nat) : ∃ c cs, Nat.toDigits 10 n = c :: cs ∧ c.isDigit := by
  obtain ⟨c, cs, hcons⟩ := List.exists_cons_of_ne_nil (Nat.toDigits_ne_nil (n := n) (b := 10))
  have hc : c ∈ Nat.toDigits 10 n := hcons ▸ List.mem_cons_self
  exact ⟨c, cs, hcons, isDigit_of_mem hc⟩

/-- No number but zero is written with a leading zero. -/
theorem head?_toDigits_ne {n : Nat} (h : 0 < n) : (Nat.toDigits 10 n).head? ≠ some '0' := by
  induction n using Nat.base_induction 10 (by decide) with
  | single m hm =>
    rw [Nat.toDigits_of_lt_base hm]
    have hdigit : ∀ m < 10, 0 < m → Nat.digitChar m ≠ '0' := by decide
    exact fun heq => hdigit m hm h (Option.some.inj heq)
  | digit m k hk hm ih =>
    rw [← Nat.toDigits_append_toDigits (by decide) hm hk,
      List.head?_append, Option.or_of_isSome (by simp [Nat.toDigits_ne_nil])]
    exact ih hm

/-- The digits of a number are read to their end. -/
theorem readUnsigned_toDigits (negative : Bool) (n : Nat) {rest : List Char} (hrest : Stops rest) :
    readUnsigned negative (Nat.toDigits 10 n ++ rest) =
      (.num (numberOf? negative (Nat.toDigits 10 n) none none), .ok rest) := by
  have hpower : readPower rest = .ok (none, rest) := by
    cases rest with
    | nil => rfl
    | cons c rest => simp [readPower, hrest.2.2.1, hrest.2.2.2]
  rw [readUnsigned, readDigits_append (fun _ => isDigit_of_mem) hrest]
  simp only
  split
  case h_1 hnil => exact absurd hnil Nat.toDigits_ne_nil
  case h_2 ds _ hzero =>
    rcases Nat.eq_zero_or_pos n with rfl | hn
    · rw [Nat.toDigits_zero] at hzero
      cases hzero
    · exact absurd (by rw [hzero]; rfl) (head?_toDigits_ne hn)
  case h_3 =>
    simp only [hpower]
    split
    case h_1 => exact absurd rfl hrest.2.1
    case h_2 => rfl

theorem isExact_iff {i : Int} :
    isExact i = true ↔ -0x8000000000000000 ≤ i ∧ i < 0x10000000000000000 := by
  simp [isExact]

/-- A digit opens a number and nothing else. -/
theorem digit_ne {c : Char} (h : c.isDigit) :
    isSpace c = false ∧ c ≠ 'n' ∧ c ≠ 't' ∧ c ≠ 'f' ∧ c ≠ '"' ∧ c ≠ '[' ∧ c ≠ ']' ∧ c ≠ '\x7b' ∧
      c ≠ '-' := by
  refine ⟨?_, ?_, ?_, ?_, ?_, ?_, ?_, ?_, ?_⟩
  · simp only [isSpace, Bool.or_eq_false_iff, decide_eq_false_iff_not]
    refine ⟨⟨⟨?_, ?_⟩, ?_⟩, ?_⟩ <;> rintro rfl <;> exact absurd h (by decide)
  all_goals
    rintro rfl
    exact absurd h (by decide)

theorem readValue_writeInt {i : Int} (hi : isExact i) {rest : List Char} (hrest : Stops rest)
    (fuel : Nat) :
    readValue (fuel + 1) (writeInt i ++ rest) = (.num (some (.int i)), .ok rest) := by
  obtain ⟨hlow, hhigh⟩ := isExact_iff.mp hi
  have habsorb : absorb (Nat.toDigits 10 i.natAbs) 0 = (i.natAbs, 0) := by
    rw [absorb_of_lt] <;> rw [Nat.ofDigitChars_ten_toDigits]
    omega
  unfold writeInt
  split
  case isTrue hneg =>
    have hnumber : numberOf? true (Nat.toDigits 10 i.natAbs) none none = some (.int i) := by
      simp only [numberOf?, habsorb]
      rw [if_neg (by decide), if_pos (by omega)]
      congr 2
      omega
    rw [List.cons_append, readValue.eq_def]
    simp only [skipSpace, List.dropWhile_cons, show isSpace '-' = false from rfl]
    exact (readUnsigned_toDigits true _ hrest).trans (by rw [hnumber])
  case isFalse hpos =>
    have hnumber : numberOf? false (Nat.toDigits 10 i.natAbs) none none = some (.int i) := by
      simp only [numberOf?, habsorb]
      rw [if_pos (by decide)]
      congr 2
      omega
    have hread := readUnsigned_toDigits false i.natAbs hrest
    rw [hnumber] at hread
    obtain ⟨c, cs, hcons, hc⟩ := toDigits_cons i.natAbs
    obtain ⟨hspace, hn, ht, hf, hquote, hopen, -, hbrace, hminus⟩ := digit_ne hc
    rw [hcons, List.cons_append] at hread ⊢
    rw [readValue.eq_def]
    simp only [skipSpace, List.dropWhile_cons, hspace]
    simp [hc, hread]

/-! ## Values -/

mutual

/-- A value whose numbers are all whole and kept exactly. -/
def Plain : Json → Prop
  | .num (.int i) => isExact i
  | .num (.float _) => False
  | .arr items => PlainItems items
  | .obj members => PlainMembers members
  | .null | .bool _ | .str _ => True

/-- Items that are all such values. -/
def PlainItems : List Json → Prop
  | [] => True
  | x :: xs => Plain x ∧ PlainItems xs

/-- Members that are all such values. -/
def PlainMembers : List (String × Json) → Prop
  | [] => True
  | (_, x) :: ms => Plain x ∧ PlainMembers ms

end

/-- A text that a reader of items takes up where it stands: no blank comes first, and no bracket
that closes. -/
def Opens : List Char → Prop
  | [] => False
  | c :: _ => isSpace c = false ∧ c ≠ ']'

theorem opens_append {cs rest : List Char} (h : Opens cs) : Opens (cs ++ rest) := by
  cases cs with
  | nil => exact absurd h id
  | cons c cs => exact h

theorem skipSpace_of_opens {cs : List Char} (h : Opens cs) : skipSpace cs = cs := by
  cases cs with
  | nil => exact absurd h id
  | cons c cs => simp [skipSpace, h.1]

theorem opens_write (x : Json) (h : Plain x) : Opens x.write := by
  cases x with
  | null | str _ | arr _ | obj _ => exact ⟨rfl, by decide⟩
  | bool b => cases b <;> exact ⟨rfl, by decide⟩
  | num n =>
    cases n with
    | float d => exact absurd h id
    | int i =>
      simp only [write, writeNumber, writeInt]
      split
      · exact ⟨rfl, by decide⟩
      · obtain ⟨c, cs, hcons, hc⟩ := toDigits_cons i.natAbs
        rw [hcons]
        exact ⟨(digit_ne hc).1, (digit_ne hc).2.2.2.2.2.2.1⟩

theorem opens_writeItems (x : Json) (xs : List Json) (h : PlainItems (x :: xs)) :
    Opens (writeItems (x :: xs)) := by
  cases xs with
  | nil => exact opens_write x h.1
  | cons y ys => exact opens_append (opens_write x h.1)

theorem readWord_append (value : Tree) (word rest : List Char) :
    readWord value word (word ++ rest) = (value, .ok rest) := by
  induction word with
  | nil => rfl
  | cons c word ih => simpa [readWord] using ih

section Steps

variable {fuel : Nat} {cs rest : List Char} {t : Tree}

theorem readValue_bracket (h : Opens cs) :
    readValue (fuel + 1) ('[' :: cs) =
      (.arr (readItems fuel cs).1 (readItems fuel cs).2.1, (readItems fuel cs).2.2) := by
  cases cs with
  | nil => exact absurd h id
  | cons c cs =>
    have hskip : skipSpace ('[' :: c :: cs) = '[' :: c :: cs := rfl
    rw [readValue.eq_def]
    simp only [hskip, skipSpace_of_opens h]
    split
    case h_1 hclose => exact absurd (List.cons.inj hclose).1 h.2
    case h_2 hnil => cases hnil
    case h_3 => rfl

theorem readItems_close (h : readValue fuel cs = (t, .ok (']' :: rest))) :
    readItems (fuel + 1) cs = ([t], none, .ok rest) := by
  rw [readItems.eq_def]
  simp [h, skipSpace, show isSpace ']' = false from rfl]

theorem readItems_comma (h : readValue fuel cs = (t, .ok (',' :: rest))) (hrest : Opens rest) :
    readItems (fuel + 1) cs =
      (t :: (readItems fuel rest).1, (readItems fuel rest).2.1, (readItems fuel rest).2.2) := by
  cases rest with
  | nil => exact absurd hrest id
  | cons c rest =>
    have hskip : skipSpace (',' :: c :: rest) = ',' :: c :: rest := rfl
    rw [readItems.eq_def]
    simp only [h, hskip, skipSpace_of_opens hrest]
    split
    case h_1 hclose => exact absurd (List.cons.inj hclose).1 hrest.2
    case h_2 hnil => cases hnil
    case h_3 => rfl

theorem readValue_brace :
    readValue (fuel + 1) ('\x7b' :: '"' :: cs) =
      (.obj (readMembers fuel ('"' :: cs)).1 (readMembers fuel ('"' :: cs)).2.1,
        (readMembers fuel ('"' :: cs)).2.2) := by
  rw [readValue.eq_def]
  simp [skipSpace, show isSpace '\x7b' = false from rfl, show isSpace '"' = false from rfl]

theorem readMembers_close (k : String) (h : readValue fuel cs = (t, .ok ('\x7d' :: rest))) :
    readMembers (fuel + 1) (writeText k ++ ':' :: cs) = ([(some k, t)], none, .ok rest) := by
  have hkey := readString_write k (':' :: cs)
  rw [readMembers.eq_def]
  simp [writeText, hkey, h, skipSpace, show isSpace ':' = false from rfl,
    show isSpace '\x7d' = false from rfl]

theorem readMembers_comma (k : String) (h : readValue fuel cs = (t, .ok (',' :: '"' :: rest))) :
    readMembers (fuel + 1) (writeText k ++ ':' :: cs) =
      ((some k, t) :: (readMembers fuel ('"' :: rest)).1, (readMembers fuel ('"' :: rest)).2.1,
        (readMembers fuel ('"' :: rest)).2.2) := by
  have hkey := readString_write k (':' :: cs)
  rw [readMembers.eq_def]
  simp [writeText, hkey, h, skipSpace, show isSpace ':' = false from rfl,
    show isSpace ',' = false from rfl, show isSpace '"' = false from rfl]

end Steps

/-- Members open with the quote of a key. -/
theorem writeMembers_cons (m : String × Json) (ms : List (String × Json)) :
    ∃ cs, writeMembers (m :: ms) = '"' :: cs := by
  cases ms <;> exact ⟨_, rfl⟩

-- Each level of a value costs a reader of the value and one of its parts, and takes up two brackets
-- or more, so fuel for two steps a character lasts to the end.
mutual

/-- A written value is read back, whatever stands behind it. -/
theorem readValue_write (x : Json) (fuel : Nat) (rest : List Char) (hx : Plain x)
    (hrest : Stops rest) (hfuel : 2 * x.write.length ≤ fuel) :
    readValue fuel (x.write ++ rest) = (toTree x, .ok rest) := by
  have hpos : 0 < x.write.length := by
    refine List.length_pos_iff.mpr fun hnil => ?_
    have hopens := opens_write x hx
    rw [hnil] at hopens
    exact hopens
  obtain ⟨fuel, rfl⟩ : ∃ k, fuel = k + 1 := ⟨fuel - 1, by omega⟩
  match x with
  | .null => exact readWord_append .null _ rest
  | .bool true => exact readWord_append (.bool true) _ rest
  | .bool false => exact readWord_append (.bool false) _ rest
  | .num (.int i) => exact readValue_writeInt hx hrest fuel
  | .num (.float _) => exact absurd hx id
  | .str s =>
    have hread := readString_write s rest
    rw [write, writeText, readValue.eq_def]
    simp [skipSpace, show isSpace '"' = false from rfl, hread, toTree]
  | .arr [] => rfl
  | .arr (x :: xs) =>
    simp only [write, List.length_append, List.length_cons, List.length_nil] at hfuel
    have hitems := readItems_write x xs fuel rest hx (by omega)
    simp only [write, List.cons_append, List.append_assoc, List.nil_append]
    rw [readValue_bracket (opens_append (opens_writeItems x xs hx)), hitems]
    rfl
  | .obj [] => rfl
  | .obj (m :: ms) =>
    simp only [write, List.length_append, List.length_cons, List.length_nil] at hfuel
    have hmembers := readMembers_write m ms fuel rest hx (by omega)
    obtain ⟨cs, hcs⟩ := writeMembers_cons m ms
    rw [hcs, List.cons_append] at hmembers
    simp only [write, hcs, List.cons_append, List.append_assoc, List.nil_append]
    rw [readValue_brace, hmembers]
    rfl
termination_by fuel

/-- Written items are read back. -/
theorem readItems_write (x : Json) (xs : List Json) (fuel : Nat) (rest : List Char)
    (hxs : PlainItems (x :: xs)) (hfuel : 2 * (writeItems (x :: xs)).length + 1 ≤ fuel) :
    readItems fuel (writeItems (x :: xs) ++ ']' :: rest) = (toTrees (x :: xs), none, .ok rest) := by
  obtain ⟨fuel, rfl⟩ : ∃ k, fuel = k + 1 := ⟨fuel - 1, by omega⟩
  match xs with
  | [] =>
    exact readItems_close
      (readValue_write x fuel (']' :: rest) hxs.1 ⟨rfl, by decide⟩ (by
        simpa [writeItems] using hfuel))
  | y :: ys =>
    simp only [writeItems, List.length_append, List.length_cons] at hfuel
    have hfirst := readValue_write x fuel (',' :: (writeItems (y :: ys) ++ ']' :: rest)) hxs.1
      ⟨rfl, by decide⟩ (by omega)
    have hothers := readItems_write y ys fuel rest hxs.2 (by omega)
    rw [writeItems, List.append_assoc, List.cons_append,
      readItems_comma hfirst (opens_append (opens_writeItems y ys hxs.2)), hothers]
    rfl
termination_by fuel

/-- Written members are read back. -/
theorem readMembers_write (m : String × Json) (ms : List (String × Json)) (fuel : Nat)
    (rest : List Char) (hms : PlainMembers (m :: ms))
    (hfuel : 2 * (writeMembers (m :: ms)).length + 1 ≤ fuel) :
    readMembers fuel (writeMembers (m :: ms) ++ '\x7d' :: rest) =
      (toMemberTrees (m :: ms), none, .ok rest) := by
  obtain ⟨fuel, rfl⟩ : ∃ k, fuel = k + 1 := ⟨fuel - 1, by omega⟩
  match m, ms with
  | (k, x), [] =>
    simp only [writeMembers, List.length_append, List.length_cons] at hfuel
    rw [writeMembers, List.append_assoc, List.cons_append]
    exact readMembers_close k
      (readValue_write x fuel ('\x7d' :: rest) hms.1 ⟨rfl, by decide⟩ (by omega))
  | (k, x), n :: ns =>
    simp only [writeMembers, List.length_append, List.length_cons] at hfuel
    obtain ⟨cs, hcs⟩ := writeMembers_cons n ns
    have hothers := readMembers_write n ns fuel rest hms.2 (by omega)
    have hfirst := readValue_write x fuel (',' :: (writeMembers (n :: ns) ++ '\x7d' :: rest)) hms.1
      ⟨rfl, by decide⟩ (by omega)
    rw [hcs, List.cons_append] at hothers hfirst
    rw [writeMembers, hcs]
    simp only [List.append_assoc, List.cons_append]
    rw [readMembers_comma k hfirst, hothers]
    rfl
termination_by fuel

end

/-! ## Whole texts -/

/-- **Decoding a written value is decoding the value itself**: nothing is lost in its text. -/
theorem decodeText_text {α : Type} (dec : Decoder α) {x : Json} (hx : Plain x) :
    decodeText dec x.text = (dec (toTree x)).mapError Fault.inText := by
  have hread := readValue_write x (2 * x.write.length + 2) [] hx trivial (Nat.le_add_right _ _)
  rw [List.append_nil] at hread
  have hdoc : Document.ofChars x.write = ⟨toTree x, none⟩ := by
    rw [Document.ofChars, hread]
    rfl
  rw [decodeText, text, String.toList_ofList, decodeChars, hdoc]
  cases dec (toTree x) <;> rfl

end Gatehouse.Json
