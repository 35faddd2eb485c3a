import Gatehouse.Uuid
import Mathlib.Algebra.Ring.Nat

/-!
# The written form of an identifier

Every identifier is read back from its thirty-two digits in five groups.
-/

namespace Gatehouse.Uuid

@[simp] theorem length_hexDigits (n x : Nat) : (hexDigits n x).length = n := by
  induction n generalizing x with
  | zero => rfl
  | succ n ih => simp [hexDigits, ih]

theorem digit?_digitChar : ∀ d < 16, Numeral.digit? 16 (Nat.digitChar d) = some d := by decide

theorem isSome_digit?_of_mem {c : Char} {n x : Nat} (h : c ∈ hexDigits n x) :
    (Numeral.digit? 16 c).isSome := by
  induction n generalizing x with
  | zero => cases h
  | succ n ih =>
    rcases List.mem_append.mp h with h | h
    · exact ih h
    · rw [List.mem_singleton.mp h, digit?_digitChar _ (Nat.mod_lt _ (by decide))]
      rfl

/-- Digits spell the number they were taken from, as far as they go. -/
theorem value_hexDigits (n x : Nat) : Numeral.value 16 (hexDigits n x) = x % 16 ^ n := by
  induction n generalizing x with
  | zero => simp [hexDigits, Numeral.value, Nat.mod_one]
  | succ n ih =>
    have hfront : Numeral.value 16 (hexDigits n (x / 16)) = x / 16 % 16 ^ n := ih (x / 16)
    have hlast := digit?_digitChar (x % 16) (Nat.mod_lt _ (by decide))
    simp only [Numeral.value] at hfront
    simp only [hexDigits, Numeral.value, List.foldl_append, List.foldl_cons, List.foldl_nil, hfront,
      hlast, Option.getD_some]
    rw [Nat.pow_succ, Nat.mul_comm (16 ^ n), Nat.mod_mul, Nat.mul_comm, Nat.add_comm]

/-- Groups of digits are taken apart where they were put together. -/
theorem unhyphenate?_hyphenate (ns : List Nat) (cs : List Char) (hns : ns ≠ [])
    (hlen : cs.length = ns.sum) : unhyphenate? ns (hyphenate ns cs) = some cs := by
  match ns with
  | [] => exact absurd rfl hns
  | [n] =>
    have hall : cs.length = n := by simpa using hlen
    simp [hyphenate, unhyphenate?, ← hall]
  | n :: m :: ns =>
    rw [List.sum_cons] at hlen
    have hfirst : (cs.take n).length = n := by
      rw [List.length_take]
      omega
    have hothers := unhyphenate?_hyphenate (m :: ns) (cs.drop n) (List.cons_ne_nil _ _) (by
      rw [List.length_drop]
      omega)
    have htake : (cs.take n ++ '-' :: hyphenate (m :: ns) (cs.drop n)).take n = cs.take n := by
      rw [List.take_append_of_le_length (Nat.le_of_eq hfirst.symm), List.take_of_length_le]
      exact Nat.le_of_eq hfirst
    have hdrop : (cs.take n ++ '-' :: hyphenate (m :: ns) (cs.drop n)).drop n =
        '-' :: hyphenate (m :: ns) (cs.drop n) := by
      rw [List.drop_append_of_le_length (Nat.le_of_eq hfirst.symm), List.drop_of_length_le]
      · rfl
      · exact Nat.le_of_eq hfirst
    rw [hyphenate, unhyphenate?, hdrop]
    simp only [htake, hfirst, if_true, hothers, Option.map_some, List.take_append_drop]

theorem length_hyphenate_groups {cs : List Char} (h : cs.length = 32) :
    (hyphenate groups cs).length = 36 := by
  simp [groups, hyphenate, h]

theorem mem_hyphenate {c : Char} (ns : List Nat) (cs : List Char) (h : c ∈ hyphenate ns cs) :
    c ∈ cs ∨ c = '-' := by
  match ns with
  | [] => exact .inl h
  | [n] => exact .inl (List.mem_of_mem_take h)
  | n :: m :: ns =>
    rw [hyphenate, List.mem_append, List.mem_cons] at h
    rcases h with h | h | h
    · exact .inl (List.mem_of_mem_take h)
    · exact .inr h
    · exact (mem_hyphenate (m :: ns) (cs.drop n) h).imp_left List.mem_of_mem_drop

/-- A digit up to sixteen stands between the digit zero and the letter f. -/
theorem bounds_of_isSome_digit? {c : Char} (h : (Numeral.digit? 16 c).isSome) :
    48 ≤ c.toNat ∧ c.toNat ≤ 102 := by
  by_contra hout
  have hdigit : ¬('0' ≤ c ∧ c ≤ '9') := fun hc => hout ⟨hc.1, Nat.le_trans hc.2 (by decide)⟩
  have hlower : ¬('a' ≤ c ∧ c ≤ 'f') := fun hc => hout ⟨Nat.le_trans (by decide) hc.1, hc.2⟩
  have hupper : ¬('A' ≤ c ∧ c ≤ 'F') := fun hc =>
    hout ⟨Nat.le_trans (by decide) hc.1, Nat.le_trans hc.2 (by decide)⟩
  simp [Numeral.digit?, hdigit, hlower, hupper] at h

/-- The written form has characters from the hyphen to the letter f, all of ASCII. -/
theorem bounds_of_mem_chars {u : Uuid} {c : Char} (h : c ∈ u.chars) :
    45 ≤ c.toNat ∧ c.toNat ≤ 102 := by
  rcases mem_hyphenate groups _ h with h | rfl
  · have hbounds := bounds_of_isSome_digit? (isSome_digit?_of_mem h)
    omega
  · decide

theorem length_chars (u : Uuid) : u.chars.length = 36 :=
  length_hyphenate_groups (length_hexDigits 32 u.bits.toNat)

/-- **Every identifier is read back from its written form.** -/
theorem parse?_text (u : Uuid) : parse? u.text = some u := by
  have hlen := length_hexDigits 32 u.bits.toNat
  have hgroups : unhyphenate? groups u.chars = some (hexDigits 32 u.bits.toNat) :=
    unhyphenate?_hyphenate groups _ (by decide) hlen
  have hdigits : Numeral.natural? 16 (hexDigits 32 u.bits.toNat) = some u.bits.toNat := by
    have hall : (hexDigits 32 u.bits.toNat).all (fun c => (Numeral.digit? 16 c).isSome) = true :=
      List.all_eq_true.mpr fun _ hc => isSome_digit?_of_mem hc
    have hne : (hexDigits 32 u.bits.toNat).isEmpty = false := by
      rw [List.isEmpty_eq_false_iff, ← List.length_pos_iff, hlen]
      decide
    have hlt : u.bits.toNat < 16 ^ 32 := u.bits.isLt
    rw [Numeral.natural?, hall, hne, value_hexDigits, Nat.mod_eq_of_lt hlt]
    rfl
  have hchars : ofChars? u.chars = ofHyphenated? u.chars := by
    rw [ofChars?, chars, length_hyphenate_groups hlen]
    rfl
  rw [parse?, text, String.toList_ofList, hchars, ofHyphenated?, hgroups, Option.bind_some,
    ofDigits?, if_pos hlen, hdigits]
  simp [ofNat]

end Gatehouse.Uuid
