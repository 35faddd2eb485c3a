import Gatehouse.Json.Printer
import Gatehouse.Proofs.Json.Writing

/-!
# No control characters in written values

Whatever texts a value holds, its written form is one line: a control character inside a text is
written by its escape, and nothing else that is written brings one in. This holds of every value,
doubles included.
-/

namespace Gatehouse.Json

/-- A text in which no control character stands. -/
def Graphic (cs : List Char) : Prop := ∀ c ∈ cs, 0x20 ≤ c.toNat

theorem graphic_nil : Graphic [] := by simp [Graphic]

theorem graphic_cons {c : Char} {cs : List Char} :
    Graphic (c :: cs) ↔ 0x20 ≤ c.toNat ∧ Graphic cs :=
  List.forall_mem_cons

theorem graphic_append {cs ds : List Char} : Graphic (cs ++ ds) ↔ Graphic cs ∧ Graphic ds :=
  List.forall_mem_append

/-- A text without control characters has no end of a line. -/
theorem Graphic.unbroken {cs : List Char} (h : Graphic cs) : '\r' ∉ cs ∧ '\n' ∉ cs :=
  ⟨fun hr => absurd (h _ hr) (by decide), fun hn => absurd (h _ hn) (by decide)⟩

/-! ## Texts -/

theorem graphic_digitChar : ∀ d < 16, 0x20 ≤ (Nat.digitChar d).toNat := by decide

/-- A character is written without control characters, above all if it is one. -/
theorem graphic_escapeChar (c : Char) : Graphic (escapeChar c) := by
  unfold escapeChar
  split
  case isTrue => simp [Graphic]
  case isFalse =>
  split
  case isTrue => simp [Graphic]
  case isFalse =>
  split
  case isTrue h => simpa [Graphic] using h
  case isFalse h =>
  -- the control characters, five of which have a letter
  repeat' split
  iterate 5
    next => simp [Graphic]
  have hhigh := graphic_digitChar (c.toNat / 16) (by omega)
  have hlow := graphic_digitChar (c.toNat % 16) (Nat.mod_lt _ (by decide))
  simp [Graphic, escapeCode, hhigh, hlow]

theorem graphic_writeText (s : String) : Graphic (writeText s) := by
  have hinside : Graphic (s.toList.flatMap escapeChar) := by
    intro c hc
    obtain ⟨d, -, hd⟩ := List.mem_flatMap.mp hc
    exact graphic_escapeChar d c hd
  rw [writeText, graphic_append, graphic_cons]
  exact ⟨⟨by decide, hinside⟩, by simp [Graphic]⟩

/-! ## Numbers -/

theorem graphic_toDigits (n : Nat) : Graphic (Nat.toDigits 10 n) := by
  intro c hc
  have hdigit := isDigit_of_mem hc
  simp only [Char.isDigit, Bool.and_eq_true, decide_eq_true_eq] at hdigit
  exact Nat.le_trans (by decide) (UInt32.le_iff_toNat_le.mp hdigit.1)

theorem graphic_writeInt (i : Int) : Graphic (writeInt i) := by
  unfold writeInt
  split
  · exact graphic_cons.mpr ⟨by decide, graphic_toDigits _⟩
  · exact graphic_toDigits _

theorem graphic_replicate_zero (n : Nat) : Graphic (List.replicate n '0') := by
  intro c hc
  rw [List.eq_of_mem_replicate hc]
  decide

theorem graphic_positionalText {digits : List Char} (h : Graphic digits) (point : Int) :
    Graphic (Double.positionalText digits point) := by
  simp only [Double.positionalText]
  split
  · simp only [graphic_append]
    exact ⟨⟨h, graphic_replicate_zero _⟩, by simp [Graphic]⟩
  · split
    · rw [graphic_append, graphic_cons]
      exact ⟨fun c hc => h c (List.mem_of_mem_take hc), by decide,
        fun c hc => h c (List.mem_of_mem_drop hc)⟩
    · simp only [graphic_append]
      exact ⟨⟨by simp [Graphic], graphic_replicate_zero _⟩, h⟩

theorem graphic_scientificText {digits : List Char} (h : Graphic digits) (power : Int) :
    Graphic (Double.scientificText digits power) := by
  have hsign : 0x20 ≤ (if power < 0 then '-' else '+').toNat := by
    split <;> decide
  have hpower : Graphic ('e' :: (if power < 0 then '-' else '+') :: Nat.toDigits 10 power.natAbs) :=
    graphic_cons.mpr ⟨by decide, graphic_cons.mpr ⟨hsign, graphic_toDigits _⟩⟩
  match digits, h with
  | [], _ => exact hpower
  | [_], h => exact graphic_append.mpr ⟨h, hpower⟩
  | _ :: _ :: _, h =>
    refine graphic_append.mpr ⟨?_, hpower⟩
    rw [graphic_cons] at h ⊢
    exact ⟨h.1, graphic_cons.mpr ⟨by decide, h.2⟩⟩

theorem graphic_text (d : Double) : Graphic d.text.toList := by
  have hsign : Graphic (if d.isNegative then ['-'] else []) := by
    split <;> simp [Graphic]
  unfold Double.text
  simp only
  split
  · rw [String.toList_ofList, graphic_append]
    exact ⟨hsign, by simp [Graphic]⟩
  · rw [String.toList_ofList, graphic_append]
    refine ⟨hsign, ?_⟩
    split
    · exact graphic_positionalText (graphic_toDigits _) _
    · exact graphic_scientificText (graphic_toDigits _) _

theorem graphic_writeNumber (n : Number) : Graphic (writeNumber n) := by
  cases n with
  | int i => exact graphic_writeInt i
  | float d =>
    rw [writeNumber]
    split
    · exact graphic_text d
    · simp [Graphic]

/-! ## Values -/

mutual

/-- **No control character stands in the written form of a value**, whatever texts it holds. -/
theorem graphic_write (x : Json) : Graphic x.write := by
  match x with
  | .null | .bool true | .bool false => simp [write, Graphic]
  | .num n =>
    rw [write]
    exact graphic_writeNumber n
  | .str s =>
    rw [write]
    exact graphic_writeText s
  | .arr items =>
    rw [write, graphic_append, graphic_cons]
    exact ⟨⟨by decide, graphic_writeItems items⟩, by simp [Graphic]⟩
  | .obj members =>
    rw [write, graphic_append, graphic_cons]
    exact ⟨⟨by decide, graphic_writeMembers members⟩, by simp [Graphic]⟩

/-- Nor in that of its items. -/
theorem graphic_writeItems (xs : List Json) : Graphic (writeItems xs) := by
  match xs with
  | [] => exact graphic_nil
  | [x] =>
    rw [writeItems]
    exact graphic_write x
  | x :: y :: xs =>
    rw [writeItems, graphic_append, graphic_cons]
    exact ⟨graphic_write x, by decide, graphic_writeItems (y :: xs)⟩

/-- Nor in that of its members. -/
theorem graphic_writeMembers (ms : List (String × Json)) : Graphic (writeMembers ms) := by
  match ms with
  | [] => exact graphic_nil
  | [(k, x)] =>
    rw [writeMembers, graphic_append, graphic_cons]
    exact ⟨graphic_writeText k, by decide, graphic_write x⟩
  | (k, x) :: m :: ms =>
    rw [writeMembers, graphic_append, graphic_append, graphic_cons, graphic_cons]
    exact ⟨⟨graphic_writeText k, by decide, graphic_write x⟩, by decide,
      graphic_writeMembers (m :: ms)⟩

end

end Gatehouse.Json
