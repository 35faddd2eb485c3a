import Gatehouse.Timestamp
import Mathlib.Algebra.Ring.Nat

/-!
# The written form of a moment

Every moment is read back from what is written down for it: its digits, a fraction of a second
without the zeros at its end, and its offset.
-/

namespace Gatehouse.Timestamp

/-! ## Digits -/

theorem digit?_digitChar : ∀ d < 10, digit? (Nat.digitChar d) = some d := by decide

/-- Digits from the highest on. -/
theorem decimalDigits_succ (n x : Nat) :
    decimalDigits (n + 1) x = Nat.digitChar (x / 10 ^ n % 10) :: decimalDigits n x := by
  induction n generalizing x with
  | zero => simp [decimalDigits]
  | succ n ih =>
    rw [decimalDigits, ih (x / 10), decimalDigits, Nat.div_div_eq_div_mul, ← Nat.pow_succ']
    rfl

theorem readDigits?_append (n y x : Nat) (rest : List Char) :
    readDigits? n y (decimalDigits n x ++ rest) = some (y * 10 ^ n + x % 10 ^ n, rest) := by
  induction n generalizing y with
  | zero => simp [decimalDigits, readDigits?, Nat.mod_one]
  | succ n ih =>
    rw [decimalDigits_succ, List.cons_append, readDigits?,
      digit?_digitChar _ (Nat.mod_lt _ (by decide)), Option.bind_some, ih, Nat.pow_succ,
      Nat.mod_mul]
    congr 2
    rw [Nat.add_mul, Nat.mul_assoc, Nat.mul_comm 10, Nat.mul_comm (x / 10 ^ n % 10)]
    omega

/-- Digits that are enough for a number are read as this number. -/
theorem readDigits?_decimalDigits {n x : Nat} (h : x < 10 ^ n) (rest : List Char) :
    readDigits? n 0 (decimalDigits n x ++ rest) = some (x, rest) := by
  rw [readDigits?_append, Nat.zero_mul, Nat.zero_add, Nat.mod_eq_of_lt h]

theorem isSome_digit?_of_mem {c : Char} {n x : Nat} (h : c ∈ decimalDigits n x) :
    (digit? c).isSome := by
  induction n with
  | zero => cases h
  | succ n ih =>
    rw [decimalDigits_succ] at h
    rcases List.mem_cons.mp h with rfl | h
    · rw [digit?_digitChar _ (Nat.mod_lt _ (by decide))]
      rfl
    · exact ih h

/-! ## Fractions -/

/-- What can stand behind a fraction without becoming part of it. -/
def EndsFraction (rest : List Char) : Prop := ∀ unit x, readFraction unit x rest = (x, rest)

section Fractions

variable {rest : List Char}

theorem readFraction_decimalDigits (h : EndsFraction rest) (n x y : Nat) :
    readFraction (10 ^ n / 10) y (decimalDigits n x ++ rest) = (y + x % 10 ^ n, rest) := by
  induction n generalizing y with
  | zero => simpa [decimalDigits, Nat.mod_one] using h _ y
  | succ n ih =>
    have hunit : 10 ^ (n + 1) / 10 = 10 ^ n := by
      rw [Nat.pow_succ]
      exact Nat.mul_div_cancel _ (by decide)
    rw [decimalDigits_succ, List.cons_append, readFraction,
      digit?_digitChar _ (Nat.mod_lt _ (by decide)), hunit]
    simp only
    rw [ih, Nat.pow_succ, Nat.mod_mul, Nat.mul_comm (10 ^ n)]
    congr 1
    omega

/-- Zeros at the end of a fraction are worth nothing. -/
theorem readFraction_append_zeros (h : EndsFraction rest) {ds zs : List Char}
    (hds : ∀ c ∈ ds, (digit? c).isSome) (hzs : ∀ c ∈ zs, c = '0') (unit x : Nat) :
    readFraction unit x (ds ++ zs ++ rest) = readFraction unit x (ds ++ rest) := by
  induction ds generalizing unit x with
  | nil =>
    rw [List.nil_append, List.nil_append, h]
    induction zs generalizing unit with
    | nil => exact h unit x
    | cons z zs ih =>
      have hzero : digit? z = some 0 := by
        rw [hzs z List.mem_cons_self]
        rfl
      rw [List.cons_append, readFraction, hzero]
      simpa using ih (fun c hc => hzs c (List.mem_cons_of_mem z hc)) (unit / 10)
  | cons d ds ih =>
    obtain ⟨v, hv⟩ := Option.isSome_iff_exists.mp (hds d List.mem_cons_self)
    simp only [List.cons_append, readFraction, hv]
    exact ih (fun c hc => hds c (List.mem_cons_of_mem d hc)) _ _

/-- A fraction of a second is read back. -/
theorem readNanos?_fractionChars (h : EndsFraction rest) (hpoint : rest.head? ≠ some '.')
    {nanos : Nat} (hlt : nanos < 1000000000) :
    readNanos? (fractionChars nanos ++ rest) = some (nanos, rest) := by
  unfold fractionChars
  split
  case isTrue hzero =>
    rw [List.nil_append, readNanos?.eq_def]
    split
    case h_1 => exact absurd rfl hpoint
    case h_2 => exact absurd rfl hpoint
    case h_3 => rw [hzero]
  case isFalse hne =>
    let zero : Char → Bool := (· = '0')
    let digits := decimalDigits 9 nanos
    let kept := (digits.reverse.dropWhile zero).reverse
    have hsplit : digits = kept ++ (digits.reverse.takeWhile zero).reverse := by
      rw [← List.reverse_append, List.takeWhile_append_dropWhile, List.reverse_reverse]
    have hkept : ∀ c ∈ kept, (digit? c).isSome := fun c hc =>
      isSome_digit?_of_mem (n := 9) (x := nanos) (by
        show c ∈ digits
        rw [hsplit]
        exact List.mem_append_left _ hc)
    have hzeros : ∀ c ∈ (digits.reverse.takeWhile zero).reverse, c = '0' := fun c hc => by
      simpa [zero] using List.all_eq_true.mp List.all_takeWhile c (List.mem_reverse.mp hc)
    have hread : readFraction 100000000 0 (kept ++ rest) = (nanos, rest) := by
      rw [← readFraction_append_zeros h hkept hzeros, ← hsplit]
      have := readFraction_decimalDigits h 9 nanos 0
      rwa [Nat.zero_add, Nat.mod_eq_of_lt (show nanos < 10 ^ 9 from hlt)] at this
    show readNanos? ('.' :: (kept ++ rest)) = some (nanos, rest)
    cases hcons : kept with
    | nil =>
      rw [hcons, List.nil_append, h] at hread
      exact absurd (congrArg Prod.fst hread).symm hne
    | cons c cs =>
      have hc : (digit? c).isSome := hkept c (hcons ▸ List.mem_cons_self)
      rw [hcons] at hread
      rw [List.cons_append] at hread ⊢
      rw [readNanos?, if_pos hc, hread]

end Fractions

/-! ## Offsets -/

theorem endsFraction_offsetChars (offset : Int) :
    EndsFraction (offsetChars offset) ∧ (offsetChars offset).head? ≠ some '.' := by
  unfold offsetChars
  repeat' split
  all_goals exact ⟨fun _ _ => rfl, by simp⟩

/-- A separator is read where it stands. -/
theorem after?_cons (c : Char) (cs : List Char) : after? c (c :: cs) = some cs := if_pos rfl

/-- Hours and minutes with a sign are read as the minutes that they make. -/
theorem readOffset?_signed {sign : Char} (hsign : sign = '+' ∨ sign = '-') {hours minutes : Nat}
    (hhours : hours ≤ 23) (hminutes : minutes ≤ 59) :
    readOffset? (sign :: decimalDigits 2 hours ++ ':' :: decimalDigits 2 minutes) =
      some (if sign = '-' then -((hours * 60 + minutes : Nat) : Int)
        else ((hours * 60 + minutes : Nat) : Int), []) := by
  have hzulu : ¬(sign = 'Z' ∨ sign = 'z') := by
    rcases hsign with rfl | rfl <;> decide
  have hread := readDigits?_decimalDigits (n := 2) (show hours < 10 ^ 2 by omega)
  have hread' := readDigits?_decimalDigits (n := 2) (show minutes < 10 ^ 2 by omega) []
  rw [List.append_nil] at hread'
  rw [List.cons_append, readOffset?, if_neg hzulu, if_pos hsign]
  simp only [hread, hread', after?_cons, Option.bind_eq_bind, Option.bind_some,
    if_pos (And.intro hhours hminutes)]

/-- An offset is read back. -/
theorem readOffset?_offsetChars {offset : Int} (h : offset.natAbs < 24 * 60) :
    readOffset? (offsetChars offset) = some (offset, []) := by
  unfold offsetChars
  split
  case isTrue hzero => rw [hzero]; rfl
  case isFalse hne =>
    have hhours : offset.natAbs / 60 ≤ 23 := by omega
    have hminutes : offset.natAbs % 60 ≤ 59 := by omega
    have htotal : offset.natAbs / 60 * 60 + offset.natAbs % 60 = offset.natAbs := by
      rw [Nat.mul_comm, Nat.div_add_mod]
    split
    case isTrue hneg =>
      rw [readOffset?_signed (.inr rfl) hhours hminutes, htotal, if_pos rfl,
        Int.ofNat_natAbs_of_nonpos (Int.le_of_lt hneg), Int.neg_neg]
    case isFalse hpos =>
      rw [readOffset?_signed (.inl rfl) hhours hminutes, htotal, if_neg (by decide),
        Int.natAbs_of_nonneg (Int.not_lt.mp hpos)]

/-! ## Whole moments -/

theorem month_bounds {year month : Nat} (h : 1 ≤ daysInMonth year month) :
    month < 10 ^ 2 ∧ daysInMonth year month < 10 ^ 2 := by
  unfold daysInMonth at h ⊢
  split at h
  all_goals first | exact absurd h (by decide) | skip
  all_goals
    refine ⟨by decide, ?_⟩
    repeat' split
    all_goals decide

theorem date_of? (d : Date) : Date.of? d.year d.month d.day = some d :=
  dif_pos ⟨d.year_le, d.day_pos, d.day_le⟩

/-- The next step of a reader whose first step succeeds. -/
theorem bind_of_eq_some {α β : Type} {x : Option α} {a : α} {f : α → Option β}
    (h : x = some a) : (x >>= f) = f a := by
  rw [h]
  rfl

/-- **Every moment is read back from its written form.** -/
theorem parse?_text (t : Timestamp) : parse? t.text = some t := by
  have hmonth := month_bounds (Nat.le_trans t.date.day_pos t.date.day_le)
  have hyear : t.date.year < 10 ^ 4 := Nat.lt_of_le_of_lt t.date.year_le (by decide)
  have hday : t.date.day < 10 ^ 2 := Nat.lt_of_le_of_lt t.date.day_le hmonth.2
  have hhour : t.hour < 10 ^ 2 := Nat.lt_trans t.hour_lt (by decide)
  have hminute : t.minute < 10 ^ 2 := Nat.lt_trans t.minute_lt (by decide)
  have hsecond : t.second < 10 ^ 2 := Nat.lt_trans t.second_lt (by decide)
  have hends := endsFraction_offsetChars t.offset
  have hwhole : of? t.date t.hour t.minute t.second t.nanos t.offset = some t :=
    dif_pos ⟨t.hour_lt, t.minute_lt, t.second_lt, t.nanos_lt, t.offset_lt⟩
  have hleap : t.second ≠ 60 := Nat.ne_of_lt t.second_lt
  rw [parse?, text, String.toList_ofList, chars]
  simp only [List.append_assoc, List.cons_append]
  refine (bind_of_eq_some (readDigits?_decimalDigits hyear _)).trans ?_
  refine (bind_of_eq_some (after?_cons '-' _)).trans ?_
  refine (bind_of_eq_some (readDigits?_decimalDigits hmonth.1 _)).trans ?_
  refine (bind_of_eq_some (after?_cons '-' _)).trans ?_
  refine (bind_of_eq_some (readDigits?_decimalDigits hday _)).trans ?_
  -- Any character below 128 may stand between the date and the time of day.
  refine (if_pos (by decide)).trans ?_
  refine (bind_of_eq_some (readDigits?_decimalDigits hhour _)).trans ?_
  refine (bind_of_eq_some (after?_cons ':' _)).trans ?_
  refine (bind_of_eq_some (readDigits?_decimalDigits hminute _)).trans ?_
  refine (bind_of_eq_some (after?_cons ':' _)).trans ?_
  refine (bind_of_eq_some (readDigits?_decimalDigits hsecond _)).trans ?_
  refine (bind_of_eq_some (readNanos?_fractionChars hends.1 hends.2 t.nanos_lt)).trans ?_
  refine (bind_of_eq_some (readOffset?_offsetChars t.offset_lt)).trans ?_
  refine (bind_of_eq_some (date_of? t.date)).trans ?_
  exact (if_neg hleap).trans hwhole

end Gatehouse.Timestamp
