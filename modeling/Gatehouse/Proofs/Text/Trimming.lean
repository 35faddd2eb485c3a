import Gatehouse.Text.Blank
import Mathlib.Data.List.Forall2
import Mathlib.Data.List.TakeWhile

/-!
# Trimming, cutting and lists with a separator

Trimming takes away the blanks around a text and nothing else, and a text is cut where a separator
stands. The parts of a written list are entries with blanks around them, or blanks only, and each text
is a list in just one way: the entries are what is left of the parts.

The vocabulary is `Blanks`, `Visible` and `Trimmed`, `InAnyCase`, `Entry`, a text that can be an entry of a list, and `Padded`,
the parts with which some entries are written.
-/

namespace Gatehouse.Text

variable {sep c : Char} {cs front back rest : List Char}

/-! ## Trimming -/

/-- All of these characters are blank. -/
def Blanks (cs : List Char) : Prop := ∀ c ∈ cs, isBlank c = true

instance (cs : List Char) : Decidable (Blanks cs) :=
  decidable_of_iff (cs.all isBlank = true) List.all_eq_true

/-- No character of these is blank. -/
def Visible (cs : List Char) : Prop := ∀ c ∈ cs, isBlank c = false

instance (cs : List Char) : Decidable (Visible cs) :=
  decidable_of_iff (cs.all (fun c => !isBlank c) = true) (by simp [Visible])

/-- All characters of a text are blank. -/
def Blank (text : String) : Prop := ∀ c ∈ text.toList, isBlank c = true

instance (text : String) : Decidable (Blank text) :=
  decidable_of_iff (text.toList.all isBlank = true) List.all_eq_true

/-- A text neither begins nor ends with a blank. -/
def Trimmed (cs : List Char) : Prop :=
  (∀ c ∈ cs.head?, isBlank c = false) ∧ ∀ c ∈ cs.getLast?, isBlank c = false

instance (cs : List Char) : Decidable (Trimmed cs) :=
  decidable_of_iff ((cs.head?.all fun c => !isBlank c) = true ∧
    (cs.getLast?.all fun c => !isBlank c) = true) (by simp [Trimmed, Option.all_eq_true])

/-- Between the space and the controls beyond ASCII there are no blanks. -/
theorem not_isBlank_of_bounds (hlow : 0x20 < c.toNat) (hhigh : c.toNat < 0x85) :
    isBlank c = false := by
  rw [Bool.eq_false_iff]
  intro h
  simp only [isBlank, Bool.or_eq_true, Bool.and_eq_true, decide_eq_true_eq, beq_iff_eq] at h
  omega

theorem blanks_nil : Blanks [] := nofun

theorem Blanks.append {ds : List Char} (hcs : Blanks cs) (hds : Blanks ds) : Blanks (cs ++ ds) := by
  intro c hc
  exact (List.mem_append.mp hc).elim (hcs c) (hds c)

theorem Blanks.reverse (h : Blanks cs) : Blanks cs.reverse :=
  fun c hc => h c (List.mem_reverse.mp hc)

theorem Trimmed.reverse (h : Trimmed cs) : Trimmed cs.reverse :=
  ⟨by simpa [List.head?_reverse] using h.2, by simpa [List.getLast?_reverse] using h.1⟩

theorem Visible.trimmed (h : Visible cs) : Trimmed cs :=
  ⟨fun c hc => h c (List.mem_of_mem_head? hc), fun c hc => h c (List.mem_of_getLast? hc)⟩

/-- The blanks in front of a text are dropped, and no more. -/
theorem dropWhile_blanks (hfront : Blanks front) (hcs : ∀ c ∈ cs.head?, isBlank c = false) :
    (front ++ cs).dropWhile isBlank = cs := by
  rw [List.dropWhile_append_of_pos hfront]
  cases cs with
  | nil => rfl
  | cons c cs => exact List.dropWhile_cons_of_neg (by simp [hcs c rfl])

/-- What stands between blanks is left. -/
theorem trimChars_padded (hfront : Blanks front) (hback : Blanks back) (hcs : Trimmed cs) :
    trimChars (front ++ cs ++ back) = cs := by
  cases hnil : cs with
  | nil =>
    have hall : Blanks (front ++ [] ++ back) := (hfront.append blanks_nil).append hback
    rw [trimChars, List.dropWhile_eq_nil_iff.mpr hall]
    rfl
  | cons c ds =>
    rw [hnil] at hcs
    have hfirst : (front ++ ((c :: ds) ++ back)).dropWhile isBlank = (c :: ds) ++ back :=
      dropWhile_blanks hfront hcs.1
    rw [trimChars, List.append_assoc, hfirst, trimEnd, List.reverse_append,
      dropWhile_blanks hback.reverse hcs.reverse.1, List.reverse_reverse]

theorem trimChars_of_blanks (h : Blanks cs) : trimChars cs = [] := by
  have hpadded := trimChars_padded h blanks_nil (show Trimmed [] by decide)
  rwa [List.append_nil, List.append_nil] at hpadded

theorem head?_dropWhile_blank (cs : List Char) :
    ∀ c ∈ (cs.dropWhile isBlank).head?, isBlank c = false := by
  intro c hc
  have h := List.head?_dropWhile_not isBlank cs
  rwa [hc] at h

/-- Only blanks are taken away at the end. -/
theorem exists_back (cs : List Char) : ∃ back, Blanks back ∧ cs = trimEnd cs ++ back := by
  refine ⟨(cs.reverse.takeWhile isBlank).reverse, ?_, ?_⟩
  · exact Blanks.reverse fun c hc => List.mem_takeWhile_imp hc
  · rw [trimEnd, ← List.reverse_append, List.takeWhile_append_dropWhile, List.reverse_reverse]

/-- Only blanks are taken away. -/
theorem exists_padding (cs : List Char) :
    ∃ front back, Blanks front ∧ Blanks back ∧ cs = front ++ trimChars cs ++ back := by
  obtain ⟨back, hback, hcs⟩ := exists_back (cs.dropWhile isBlank)
  refine ⟨cs.takeWhile isBlank, back, fun c hc => List.mem_takeWhile_imp hc, hback, ?_⟩
  rw [trimChars, List.append_assoc, ← hcs, List.takeWhile_append_dropWhile]

/-- No blank is left at the ends. -/
theorem trimmed_trimChars (cs : List Char) : Trimmed (trimChars cs) := by
  constructor
  · obtain ⟨back, -, hcs⟩ := exists_back (cs.dropWhile isBlank)
    intro c hc
    refine head?_dropWhile_blank cs c ?_
    rw [hcs, List.head?_append, show (trimEnd (cs.dropWhile isBlank)).head? = some c from hc]
    rfl
  · rw [trimChars, trimEnd, List.getLast?_reverse]
    exact head?_dropWhile_blank _

/-- Trimming keeps what is not blank. -/
theorem mem_trimChars (hc : c ∈ cs) (hb : isBlank c = false) : c ∈ trimChars cs := by
  obtain ⟨front, back, hfront, hback, hcs⟩ := exists_padding cs
  rw [hcs, List.mem_append, List.mem_append] at hc
  rcases hc with (hc | hc) | hc
  · rw [hfront c hc] at hb
    cases hb
  · exact hc
  · rw [hback c hc] at hb
    cases hb

/-- Nothing is left of a text exactly if all of it is blank. -/
theorem trim_eq_empty_iff {text : String} : trim text = "" ↔ Blank text := by
  rw [← String.toList_eq_nil_iff, toList_trim]
  refine ⟨fun hnil c hc => ?_, trimChars_of_blanks⟩
  by_contra hvisible
  have hkept : c ∈ trimChars text.toList := mem_trimChars hc (by simpa using hvisible)
  rw [hnil] at hkept
  exact absurd hkept List.not_mem_nil

/-! ## Letter case -/

/-- All of these characters are letters from A to Z. -/
def Capitals (cs : List Char) : Prop := ∀ c ∈ cs, 65 ≤ c.toNat ∧ c.toNat ≤ 90

instance (cs : List Char) : Decidable (Capitals cs) :=
  decidable_of_iff (cs.all (fun c => 65 ≤ c.toNat && c.toNat ≤ 90) = true) (by simp [Capitals])

/-- A word in any letter case: each character is a capital letter or the small letter to it. -/
def InAnyCase (word capitals : List Char) : Prop :=
  List.Forall₂ (fun c capital => c = capital ∨ c = capital.toLower) word capitals

theorem toNat_toLower (c : Char) : c.toLower.toNat =
    if 65 ≤ c.toNat ∧ c.toNat ≤ 90 then c.toNat + 32 else c.toNat := by
  unfold Char.toLower
  by_cases h : 65 ≤ c.toNat ∧ c.toNat ≤ 90
  · have hval : c.val ≥ 'A'.val ∧ c.val ≤ 'Z'.val := h
    rw [dif_pos hval, if_pos h]
    show (c.val + 32).toNat = c.val.toNat + 32
    have hlt : c.val.toNat ≤ 90 := h.2
    rw [UInt32.toNat_add]
    exact Nat.mod_eq_of_lt (show c.val.toNat + 32 < 4294967296 by omega)
  · have hval : ¬(c.val ≥ 'A'.val ∧ c.val ≤ 'Z'.val) := h
    rw [dif_neg hval, if_neg h]

theorem toLower_eq_iff {c capital : Char} (h : 65 ≤ capital.toNat ∧ capital.toNat ≤ 90) :
    c.toLower = capital.toLower ↔ c = capital ∨ c = capital.toLower := by
  simp only [← Char.toNat_inj, toNat_toLower, if_pos h]
  split <;> omega

theorem sameIgnoringCase_iff {word capitals : List Char} (h : Capitals capitals) :
    sameIgnoringCase word capitals = true ↔ InAnyCase word capitals := by
  rw [sameIgnoringCase, beq_iff_eq, InAnyCase]
  induction word generalizing capitals with
  | nil => cases capitals <;> simp
  | cons c word ih =>
    cases capitals with
    | nil => simp
    | cons capital capitals =>
      obtain ⟨hfirst, hothers⟩ := List.forall_mem_cons.mp h
      rw [List.map_cons, List.map_cons, List.cons.injEq, List.forall₂_cons, toLower_eq_iff hfirst,
        ih hothers]

/-- Letters are not blank, in whatever letter case. -/
theorem InAnyCase.visible {word capitals : List Char} (h : InAnyCase word capitals)
    (hcapitals : Capitals capitals) : Visible word := by
  induction h with
  | nil => exact nofun
  | @cons c capital _ _ hc _ ih =>
    obtain ⟨hfirst, hothers⟩ := List.forall_mem_cons.mp hcapitals
    refine List.forall_mem_cons.mpr ⟨?_, ih hothers⟩
    rcases hc with rfl | rfl
    · exact not_isBlank_of_bounds (by omega) (by omega)
    · have hlower := toNat_toLower capital
      rw [if_pos hfirst] at hlower
      exact not_isBlank_of_bounds (by omega) (by omega)

/-! ## Cutting -/

/-- A text is cut where `sep` stands if it does not stand before. -/
theorem cutAt_append (h : sep ∉ front) : cutAt sep (front ++ sep :: rest) = some (front, rest) := by
  induction front with
  | nil => simp [cutAt]
  | cons c cs ih =>
    rw [List.mem_cons, not_or] at h
    obtain ⟨hc, hcs⟩ := h
    rw [List.cons_append, cutAt, if_neg (Ne.symm hc), ih hcs]
    rfl

/-- A text that is cut is put together again by `sep`. -/
theorem eq_of_cutAt (h : cutAt sep cs = some (front, rest)) : cs = front ++ sep :: rest := by
  induction cs generalizing front with
  | nil => cases h
  | cons c cs ih =>
    rw [cutAt] at h
    split at h
    case isTrue hc =>
      cases h
      rw [hc, List.nil_append]
    case isFalse =>
      obtain ⟨⟨before, after⟩, hcut, heq⟩ := Option.map_eq_some_iff.mp h
      cases heq
      rw [ih hcut, List.cons_append]

/-- The parts of a text are those between the separators. -/
theorem parts_eq_splitOn (sep : Char) (cs : List Char) : parts sep cs = cs.splitOn sep := by
  induction cs with
  | nil => rfl
  | cons c cs ih =>
    have hcons : (c :: cs).splitOn sep =
        if (c == sep) = true then [] :: cs.splitOn sep
        else (cs.splitOn sep).modifyHead (List.cons c) :=
      List.splitOnP_cons_eq_if_modifyHead c cs
    rw [parts, ih, hcons]
    simp only [beq_iff_eq]
    split
    · rfl
    · cases hsplit : cs.splitOn sep with
      | nil => exact absurd hsplit (List.splitOn_ne_nil sep cs)
      | cons p ps => rfl

theorem not_mem_of_mem_parts {part : List Char} (h : part ∈ parts sep cs) : sep ∉ part := by
  induction cs generalizing part with
  | nil => simp_all [parts]
  | cons c cs ih =>
    rw [parts] at h
    split at h
    · rcases List.mem_cons.mp h with rfl | h
      · exact List.not_mem_nil
      · exact ih h
    case isFalse hc =>
      cases hparts : parts sep cs with
      | nil =>
        rw [parts_eq_splitOn] at hparts
        exact absurd hparts (List.splitOn_ne_nil sep cs)
      | cons p ps =>
        rw [hparts] at h ih
        rcases List.mem_cons.mp h with rfl | h
        · rw [List.mem_cons, not_or]
          exact ⟨Ne.symm hc, ih List.mem_cons_self⟩
        · exact ih (List.mem_cons_of_mem p h)

/-! ## Lists -/

/-- A text can be an entry of a list that is written with commas. -/
structure Entry (cs : List Char) : Prop where
  ne_nil : cs ≠ []
  trimmed : Trimmed cs
  whole : ',' ∉ cs

/-- Some entries are written in these parts: each with blanks around it, and blank parts anywhere. -/
inductive Padded : List (List Char) → List (List Char) → Prop
  | nil : Padded [] []
  | blank {part : List Char} {parts entries : List (List Char)} (blanks : Blanks part)
    (others : Padded parts entries) : Padded (part :: parts) entries
  | entry {front cs back : List Char} {parts entries : List (List Char)} (before : Blanks front)
    (after : Blanks back) (others : Padded parts entries) :
    Padded ((front ++ cs ++ back) :: parts) (cs :: entries)

/-- What is left of the parts of a list. -/
def visibleParts (ps : List (List Char)) : List (List Char) :=
  (ps.map trimChars).filter fun part => !part.isEmpty

/-- Only the entries are left of the parts in which they are written. -/
theorem Padded.visibleParts_eq {ps entries : List (List Char)} (h : Padded ps entries)
    (hentries : ∀ e ∈ entries, Entry e) : visibleParts ps = entries := by
  induction h with
  | nil => rfl
  | blank blanks _ ih =>
    rw [visibleParts, List.map_cons, trimChars_of_blanks blanks]
    exact ih hentries
  | entry before after _ ih =>
    obtain ⟨hfirst, hothers⟩ := List.forall_mem_cons.mp hentries
    rw [visibleParts, List.map_cons, trimChars_padded before after hfirst.trimmed,
      List.filter_cons_of_pos (by simpa using hfirst.ne_nil)]
    exact congrArg _ (ih hothers)

/-- Parts are what is left of them with blanks around. -/
theorem padded_visibleParts (ps : List (List Char)) : Padded ps (visibleParts ps) := by
  induction ps with
  | nil => exact .nil
  | cons part ps ih =>
    obtain ⟨front, back, hfront, hback, hpart⟩ := exists_padding part
    by_cases hnil : trimChars part = []
    · rw [visibleParts, List.map_cons, List.filter_cons_of_neg (by simp [hnil])]
      refine .blank ?_ ih
      rw [hpart, hnil]
      exact (hfront.append blanks_nil).append hback
    · rw [visibleParts, List.map_cons, List.filter_cons_of_pos (by simpa using hnil)]
      have hentry : Padded ((front ++ trimChars part ++ back) :: ps)
          (trimChars part :: visibleParts ps) := .entry hfront hback ih
      rwa [← hpart] at hentry

/-- What is left of the parts of a text is an entry each. -/
theorem entry_of_mem_visibleParts {part : List Char} (h : part ∈ visibleParts (parts ',' cs)) :
    Entry part := by
  obtain ⟨hmem, hvisible⟩ := List.mem_filter.mp h
  obtain ⟨p, hp, rfl⟩ := List.mem_map.mp hmem
  refine ⟨by simpa using hvisible, trimmed_trimChars p, fun hcomma => not_mem_of_mem_parts hp ?_⟩
  obtain ⟨front, back, -, -, hpadded⟩ := exists_padding p
  rw [hpadded]
  simp [hcomma]

/-- Parts of a list have no comma if its entries have none. -/
theorem Padded.not_mem {ps entries : List (List Char)} (h : Padded ps entries)
    (hentries : ∀ e ∈ entries, Entry e) : ∀ part ∈ ps, ',' ∉ part := by
  have hblanks : ∀ {cs}, Blanks cs → ',' ∉ cs := fun hcs hmem => by cases hcs ',' hmem
  induction h with
  | nil => exact nofun
  | blank blanks _ ih => exact List.forall_mem_cons.mpr ⟨hblanks blanks, ih hentries⟩
  | entry before after _ ih =>
    obtain ⟨hfirst, hothers⟩ := List.forall_mem_cons.mp hentries
    refine List.forall_mem_cons.mpr ⟨?_, ih hothers⟩
    simp [hblanks before, hblanks after, hfirst.whole]

/-- Parts that are joined by commas are taken apart again. -/
theorem visibleParts_intercalate {ps : List (List Char)} (h : ∀ part ∈ ps, ',' ∉ part) :
    visibleParts (parts ',' ([','].intercalate ps)) = visibleParts ps := by
  cases ps with
  | nil => rfl
  | cons p ps => rw [parts_eq_splitOn, List.splitOn_intercalate ',' h (List.cons_ne_nil p ps)]

end Gatehouse.Text
