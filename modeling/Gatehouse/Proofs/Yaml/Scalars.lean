import Gatehouse.Proofs.Json.Writing
import Gatehouse.Proofs.Numeral
import Gatehouse.Proofs.Yaml.Plain

/-!
# What plain texts stand for

A text that is written plain stands for itself, and a whole number for itself. Both can stand plain
on a line, and so can names.
-/

namespace Gatehouse.Yaml

/-! ## What plain texts stand for -/

theorem resolve_eq_str {cs : List Char} {s : String} (h : resolve cs = .str s) :
    s = String.ofList cs := by
  rw [resolve] at h
  split at h
  · cases h
  · split at h
    · cases h
    · rw [wholeNumber] at h
      split at h <;> cases h
    · cases h
    · exact (Json.str.inj h).symm

theorem resolve_of_isPlain {cs : List Char} (h : isPlain cs = true) :
    resolve cs = .str (String.ofList cs) := by
  cases cs with
  | nil => cases h
  | cons c cs =>
    have hlast := (Bool.and_eq_true_iff.mp h).2
    split at hlast
    case h_1 s hs => rw [hs, resolve_eq_str hs]
    case h_2 => cases hlast

theorem bare_of_isPlain {cs : List Char} (h : isPlain cs = true) : Bare cs := by
  cases cs with
  | nil => cases h
  | cons c cs =>
    simp only [isPlain, Bool.and_eq_true, Bool.not_eq_true'] at h
    exact ⟨h.1.1.2, c, cs, rfl, h.1.1.1.2, .inl h.1.1.1.1⟩

theorem isOpeningSign_of_nameChar {c : Char} (h : isNameChar c = true) :
    isOpeningSign c = false := by
  have hsigns : ∀ d ∈ ['-', '?', ':', ',', '[', ']', '\x7b', '\x7d', '#', '&', '*', '!', '|', '>',
      '\'', '"', '%', '@', '\x60'], isNameChar d = false := by simp [isNameChar]
  by_contra hsign
  rw [Bool.not_eq_false, isOpeningSign, List.contains_iff_mem] at hsign
  cases h.symm.trans (hsigns c hsign)

theorem bare_of_names {c : Char} {cs : List Char} (h : ∀ d ∈ c :: cs, isNameChar d = true) :
    Bare (c :: cs) := by
  have hc := h c List.mem_cons_self
  exact ⟨isSmooth_of_names h (.inr (List.cons_ne_nil c cs)), c, cs, rfl, isBlank_of_nameChar hc,
    .inl (isOpeningSign_of_nameChar hc)⟩

/-! ## Whole numbers -/

/-- The digits of a number are a zero alone, or do not begin with a zero. -/
theorem toDigits_shape (n : Nat) : Nat.toDigits 10 n = ['0'] ∨
    ∃ c cs, Nat.toDigits 10 n = c :: cs ∧ c.isDigit = true ∧ c ≠ '0' := by
  rcases Nat.eq_zero_or_pos n with rfl | hn
  · exact .inl (Nat.toDigits_zero 10)
  · obtain ⟨c, cs, hcons, hc⟩ := Json.toDigits_cons n
    refine .inr ⟨c, cs, hcons, hc, ?_⟩
    rintro rfl
    exact Json.head?_toDigits_ne hn (by rw [hcons]; rfl)

theorem isNameChar_of_mem_toDigits {c : Char} {n : Nat} (h : c ∈ Nat.toDigits 10 n) :
    isNameChar c = true := by
  simp [isNameChar, Char.isAlphanum, Json.isDigit_of_mem h]

theorem bare_writeInt (i : Int) : Bare (Json.writeInt i) := by
  obtain ⟨c, cs, hcons, hc⟩ := Json.toDigits_cons i.natAbs
  have hnames : ∀ d ∈ c :: cs, isNameChar d = true :=
    fun d hd => isNameChar_of_mem_toDigits (hcons ▸ hd)
  rw [Json.writeInt]
  split
  case isTrue =>
    have hsmooth : isSmooth '-' (c :: cs) = true := isSmooth_of_names hnames (.inl rfl)
    have hends : endsWord (c :: cs) = false := by
      have hblank := isBlank_of_nameChar (hnames c List.mem_cons_self)
      have hbreak : c ≠ '\n' := ne_of_nameChar (hnames c List.mem_cons_self) rfl
      simp [endsWord, hblank, hbreak]
    rw [hcons]
    have hcolon : '-' = ':' → endsWord (c :: cs) = false := fun heq => absurd heq (by decide)
    refine ⟨isSmooth_cons.mpr ⟨by decide, rfl, by decide, hcolon, hsmooth⟩, ?_⟩
    exact ⟨'-', c :: cs, rfl, rfl, .inr ⟨rfl, hends⟩⟩
  case isFalse =>
    rw [hcons]
    exact bare_of_names hnames

/-- Digits after a sign spell a whole number. -/
theorem integer?_of_signed {cs : List Char} {negative : Bool} {n : Nat}
    (h : Numeral.signed cs = (negative, Nat.toDigits 10 n)) :
    integer? cs = some (if negative then -(n : Int) else n) := by
  have hpadded : isPadded cs = false := by
    rw [isPadded, h]
    rcases toDigits_shape n with hzero | ⟨c, ds, hds, -, hc⟩
    · rw [hzero]
      rfl
    · rw [hds]
      split
      case h_1 heq => exact absurd (List.cons.inj heq).1 hc
      case h_2 => rfl
  have hbased : based (Nat.toDigits 10 n) = (10, Nat.toDigits 10 n) := by
    rcases toDigits_shape n with hzero | ⟨c, ds, hds, -, hc⟩
    · rw [hzero]
      rfl
    · rw [hds, based.eq_def]
      split
      case h_4 => rfl
      all_goals
        rename_i heq
        exact absurd (List.cons.inj heq).1 hc
  have hnatural := Numeral.natural?_toDigits (b := 10) (by decide) (by decide) n
  simp only [integer?, hpadded, h, hbased, hnatural, Bool.false_eq_true, if_false, Option.map_some]

theorem signed_writeInt (i : Int) :
    Numeral.signed (Json.writeInt i) = (decide (i < 0), Nat.toDigits 10 i.natAbs) := by
  rw [Json.writeInt]
  split
  case isTrue hneg => rw [decide_eq_true hneg, Numeral.signed]
  case isFalse hpos =>
    obtain ⟨c, ds, hds, hc⟩ := Json.toDigits_cons i.natAbs
    rw [decide_eq_false hpos, hds, Numeral.signed.eq_def]
    split
    case h_1 heq =>
      cases heq
      cases hc
    case h_2 heq =>
      cases heq
      cases hc
    case h_3 => rfl

theorem head_writeInt (i : Int) :
    ∃ c cs, Json.writeInt i = c :: cs ∧ (c.isDigit = true ∨ c = '-') := by
  obtain ⟨c, ds, hds, hc⟩ := Json.toDigits_cons i.natAbs
  rw [Json.writeInt, hds]
  split
  · exact ⟨'-', _, rfl, .inr rfl⟩
  · exact ⟨c, ds, rfl, .inl hc⟩

/-- **A whole number is read back.** -/
theorem resolve_writeInt {i : Int} (hi : Json.isExact i = true) :
    resolve (Json.writeInt i) = .num (.int i) := by
  have hinteger : integer? (Json.writeInt i) = some i := by
    rw [integer?_of_signed (signed_writeInt i), Option.some.injEq]
    by_cases hneg : i < 0
    · rw [if_pos (decide_eq_true hneg)]
      omega
    · rw [if_neg (by simpa using hneg)]
      omega
  have hword {w : String} (hw : w ∈ nullWords ++ truthWords.map Prod.fst) :
      w ≠ String.ofList (Json.writeInt i) := by
    rintro rfl
    have hwords : ∀ w ∈ nullWords ++ truthWords.map Prod.fst, ∀ c ∈ w.toList.head?,
        ¬(c.isDigit = true ∨ c = '-') := by simp [nullWords, truthWords]
    obtain ⟨c, cs, hcons, hc⟩ := head_writeInt i
    exact hwords _ hw c (by rw [String.toList_ofList, hcons]; rfl) hc
  have hnull : nullWords.contains (String.ofList (Json.writeInt i)) = false := by
    rw [← Bool.not_eq_true, List.contains_iff_mem]
    exact fun hmem => hword (List.mem_append_left _ hmem) rfl
  have htruth : truth? (Json.writeInt i) = none := by
    refine Option.map_eq_none_iff.mpr (List.find?_eq_none.mpr fun w hw => ?_)
    simpa using hword (List.mem_append_right _ (List.mem_map_of_mem hw))
  obtain ⟨c, cs, hcons, -⟩ := head_writeInt i
  have hempty : (Json.writeInt i).isEmpty = false := by rw [hcons]; rfl
  simp only [resolve, hempty, hnull, htruth, hinteger, Bool.or_self, Bool.false_eq_true, if_false]
  rw [wholeNumber, if_pos hi]
  rfl

end Gatehouse.Yaml
