import Gatehouse.Decimal.Numeral
import Mathlib.Data.List.Induction

/-!
# Reading whole numbers

A whole number without room for negative ones is read exactly if the text spells it, by decimal digits
with or without a plus sign before them, and it does not exceed its bound. Zeros may stand in front.
The digits with which a number is written, in a base up to sixteen, spell this number.
-/

namespace Gatehouse.Numeral

theorem value_concat (base : Nat) (ds : List Char) (c : Char) :
    value base (ds ++ [c]) = value base ds * base + (digit? base c).getD 0 := by
  simp [value]

theorem value_le_append (ds cs : List Char) : value 10 ds ≤ value 10 (ds ++ cs) := by
  induction cs using List.reverseRecOn with
  | nil => simp
  | append_singleton cs c ih =>
    rw [← List.append_assoc, value_concat]
    omega

theorem digit?_of_isDigit {c : Char} (h : c.isDigit = true) :
    digit? 10 c = some (c.toNat - 48) ∧ 48 ≤ c.toNat ∧ c.toNat ≤ 57 := by
  have hbounds : 48 ≤ c.toNat ∧ c.toNat ≤ 57 := by
    simpa [Char.isDigit, UInt32.le_iff_toNat_le] using h
  have hlow : '0' ≤ c := hbounds.1
  have hhigh : c ≤ '9' := hbounds.2
  refine ⟨?_, hbounds⟩
  simp only [digit?, hlow, hhigh, decide_true, Bool.and_self, if_true]
  rw [if_pos (by omega)]

/-- Digits are read on as long as the number stays below its bound. -/
theorem readDigits_eq_ok_iff {high : Nat} {ds cs : List Char} {n : Int} (hds : value 10 ds ≤ high) :
    readDigits 0 high false (value 10 ds) cs = .ok n ↔
      (∀ c ∈ cs, c.isDigit = true) ∧ value 10 (ds ++ cs) ≤ high ∧ n = value 10 (ds ++ cs) := by
  induction cs generalizing ds with
  | nil =>
    rw [readDigits, List.append_nil, Except.ok.injEq]
    exact ⟨fun h => ⟨nofun, hds, h.symm⟩, fun h => h.2.2.symm⟩
  | cons c cs ih =>
    rw [readDigits]
    by_cases hc : c.isDigit = true
    · obtain ⟨hdigit, hlow, -⟩ := digit?_of_isDigit hc
      have hnext : (value 10 ds : Int) * 10 + ((c.toNat : Int) - 48) = value 10 (ds ++ [c]) := by
        rw [value_concat, hdigit, Option.getD_some]
        omega
      have hmono := value_le_append (ds ++ [c]) cs
      have happend : ds ++ [c] ++ cs = ds ++ c :: cs := List.append_cons ds c cs ▸ rfl
      rw [happend] at hmono
      simp only [hc, Bool.not_true, Bool.false_eq_true, if_false, hnext, List.forall_mem_cons,
        true_and]
      split
      case isTrue hover =>
        refine iff_of_false nofun ?_
        rintro ⟨-, hle, -⟩
        omega
      case isFalse hle => rw [if_neg (by omega), ih (by omega), happend]
    · simp [hc]

/-- A text spells a number: decimal digits, at least one, with or without a plus sign before them. -/
def Spells (cs : List Char) (n : Nat) : Prop :=
  ∃ digits, digits ≠ [] ∧ (∀ c ∈ digits, c.isDigit = true) ∧ (cs = digits ∨ cs = '+' :: digits) ∧
    value 10 digits = n

theorem spells_plus {ds : List Char} {n : Nat} : Spells ('+' :: ds) n ↔
    ds ≠ [] ∧ (∀ c ∈ ds, c.isDigit = true) ∧ value 10 ds = n := by
  constructor
  · rintro ⟨digits, hne, hdigits, rfl | heq, hvalue⟩
    · cases hdigits '+' List.mem_cons_self
    · cases heq
      exact ⟨hne, hdigits, hvalue⟩
  · rintro ⟨hne, hdigits, hvalue⟩
    exact ⟨ds, hne, hdigits, .inr rfl, hvalue⟩

theorem spells_of_ne {c : Char} (hc : c ≠ '+') {ds : List Char} {n : Nat} : Spells (c :: ds) n ↔
    (∀ d ∈ c :: ds, d.isDigit = true) ∧ value 10 (c :: ds) = n := by
  constructor
  · rintro ⟨digits, hne, hdigits, rfl | heq, hvalue⟩
    · exact ⟨hdigits, hvalue⟩
    · cases heq
      exact absurd rfl hc
  · rintro ⟨hdigits, hvalue⟩
    exact ⟨c :: ds, List.cons_ne_nil c ds, hdigits, .inl rfl, hvalue⟩

theorem read_plus {high : Int} {ds : List Char} (h : ds ≠ []) :
    read 0 high ('+' :: ds) = readDigits 0 high false 0 ds := by
  cases ds with
  | nil => exact absurd rfl h
  | cons d ds => rfl

/-- Without room for negative numbers a minus sign is a character like any other. -/
theorem read_of_ne {high : Int} {c : Char} (hc : c ≠ '+') (ds : List Char) :
    read 0 high (c :: ds) = readDigits 0 high false 0 (c :: ds) := by
  by_cases hminus : c = '-'
  · subst hminus
    cases ds <;> rfl
  · cases ds with
    | nil => simp [read, hc, hminus]
    | cons d ds => simp [read, hc, hminus]

/-- Where there is no room for negative numbers, a number is read exactly if it is spelled and does not
exceed its bound. -/
theorem read_eq_ok_iff {high : Nat} {cs : List Char} {n : Int} :
    read 0 high cs = .ok n ↔ ∃ m ≤ high, Spells cs m ∧ n = m := by
  have hdigits : ∀ ds, readDigits 0 high false 0 ds = .ok n ↔
      ∃ m ≤ high, ((∀ c ∈ ds, c.isDigit = true) ∧ value 10 ds = m) ∧ n = m := by
    intro ds
    have hread : readDigits 0 high false (value 10 []) ds = .ok n ↔ _ :=
      readDigits_eq_ok_iff (Nat.zero_le high)
    refine hread.trans ⟨?_, ?_⟩
    · rintro ⟨hall, hle, rfl⟩
      exact ⟨_, hle, ⟨hall, rfl⟩, rfl⟩
    · rintro ⟨m, hle, ⟨hall, rfl⟩, rfl⟩
      exact ⟨hall, hle, rfl⟩
  match cs with
  | [] =>
    refine iff_of_false nofun ?_
    rintro ⟨m, -, ⟨digits, hne, -, rfl | heq, -⟩, -⟩
    · exact hne rfl
    · cases heq
  | c :: ds =>
    by_cases hplus : c = '+'
    · subst hplus
      by_cases hne : ds = []
      · subst hne
        simp [read, spells_plus]
      · rw [read_plus hne, hdigits]
        simp [spells_plus, hne]
    · rw [read_of_ne hplus, hdigits]
      simp only [spells_of_ne hplus]

/-! ## Digits of a number -/

section Digits

variable {b : Nat} (hb : 1 < b) (hmost : b ≤ 16)
include hb hmost

omit hb in
theorem digit?_digitChar {d : Nat} (hd : d < b) : digit? b (Nat.digitChar d) = some d := by
  have hall : ∀ b ≤ 16, ∀ d < b, digit? b (Nat.digitChar d) = some d := by decide
  exact hall b hmost d hd

/-- A number is written in digits. -/
theorem isSome_digit?_of_mem {c : Char} {n : Nat} (h : c ∈ Nat.toDigits b n) :
    (digit? b c).isSome := by
  induction n using Nat.base_induction b hb with
  | single m hm =>
    rw [Nat.toDigits_of_lt_base hm, List.mem_singleton] at h
    rw [h, digit?_digitChar hmost hm]
    rfl
  | digit m k hk hm ih =>
    rw [← Nat.toDigits_append_toDigits hb hm hk, Nat.toDigits_of_lt_base hk] at h
    rcases List.mem_append.mp h with h | h
    · exact ih h
    · rw [List.mem_singleton.mp h, digit?_digitChar hmost hk]
      rfl

/-- The digits of a number spell it. -/
theorem value_toDigits (n : Nat) : value b (Nat.toDigits b n) = n := by
  induction n using Nat.base_induction b hb with
  | single m hm =>
    rw [Nat.toDigits_of_lt_base hm]
    simp [value, digit?_digitChar hmost hm]
  | digit m k hk hm ih =>
    rw [← Nat.toDigits_append_toDigits hb hm hk, Nat.toDigits_of_lt_base hk, value_concat, ih,
      digit?_digitChar hmost hk, Option.getD_some, Nat.mul_comm]

/-- The digits of a number are read as it. -/
theorem natural?_toDigits (n : Nat) : natural? b (Nat.toDigits b n) = some n := by
  have hne : (Nat.toDigits b n).isEmpty = false :=
    List.isEmpty_eq_false_iff.mpr Nat.toDigits_ne_nil
  have hall : (Nat.toDigits b n).all (fun c => (digit? b c).isSome) = true :=
    List.all_eq_true.mpr fun _ hc => isSome_digit?_of_mem hb hmost hc
  rw [natural?, hne, hall, value_toDigits hb hmost]
  rfl

end Digits

end Gatehouse.Numeral
