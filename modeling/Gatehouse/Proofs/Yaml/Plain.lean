import Gatehouse.Yaml.Printer
import Gatehouse.Yaml.Text
import Mathlib.Data.List.TakeWhile

/-!
# Plain texts of a line

A text that can stand plain on a line is read back from there, word by word with the spaces between
them, and the line break behind it is read with the margin of the next line. A name before a colon
is read up to the colon.
-/

namespace Gatehouse.Yaml

/-! ## Places of a line -/

namespace Place

variable {c : Char} {cs rest : List Char} {line column offset : Nat}

theorem next_inline (h : c ≠ '\n') : (⟨c :: rest, line, column, offset⟩ : Place).next =
    ⟨rest, line, column + 1, offset + 1⟩ := by
  rw [next.eq_def]
  split
  case h_1 hnil => cases hnil
  case h_2 heq => exact absurd (List.cons.inj heq).1 h
  case h_3 heq => rw [(List.cons.inj heq).2]

/-- Within a line each character takes up one column. -/
theorem skip_inline (h : '\n' ∉ cs) : (⟨cs ++ rest, line, column, offset⟩ : Place).skip cs.length =
    ⟨rest, line, column + cs.length, offset + cs.length⟩ := by
  induction cs generalizing column offset with
  | nil => rfl
  | cons c cs ih =>
    rw [List.mem_cons, not_or] at h
    rw [List.length_cons, skip, List.cons_append, next_inline (Ne.symm h.1), ih h.2, mk.injEq]
    exact ⟨rfl, rfl, by omega, by omega⟩

/-- Characters of a line that pass a test, up to one that does not. -/
theorem span_inline {test : Char → Bool} (h : '\n' ∉ cs) (hcs : ∀ c ∈ cs, test c = true)
    (hrest : ∀ c ∈ rest.head?, test c = false) :
    (⟨cs ++ rest, line, column, offset⟩ : Place).span test =
      (cs, ⟨rest, line, column + cs.length, offset + cs.length⟩) := by
  have hstop : rest.takeWhile test = [] := by
    cases rest with
    | nil => rfl
    | cons c rest => simp [hrest c rfl]
  simp only [span, List.takeWhile_append_of_pos hcs, hstop, List.append_nil, skip_inline h]

end Place

/-! ## Gaps -/

/-- Some spaces. -/
abbrev spaces (n : Nat) : List Char := List.replicate n ' '

theorem takeWhile_space (cs : List Char) :
    cs.takeWhile (· = ' ') = spaces (cs.takeWhile (· = ' ')).length :=
  List.eq_replicate_iff.mpr ⟨rfl, fun d hd => by simpa using List.mem_takeWhile_imp hd⟩

theorem lt_length_spaces (n : Nat) (rest : List Char) : n < (spaces n ++ rest).length + 1 := by
  simp only [List.length_append, List.length_replicate]
  omega

/-- No white space comes first. -/
abbrev Unspaced (rest : List Char) : Prop := ∀ c ∈ rest.head?, c ∉ [' ', '\t', '\n']

section Gaps

variable {least fuel n : Nat} {rest : List Char} {line column offset : Nat}

theorem readGap_end (hrest : Unspaced rest) (blanks : List Char) (breaks : Nat) :
    readGap least (fuel + 1) blanks breaks ⟨rest, line, column, offset⟩ =
      some (⟨if breaks = 0 then blanks else foldBreaks breaks, decide (0 < breaks)⟩,
        ⟨rest, line, column, offset⟩) := by
  cases rest with
  | nil => rfl
  | cons c rest =>
    have hc := hrest c rfl
    have hblank : isBlank c = false := by
      simp only [List.mem_cons, not_or] at hc
      simp [isBlank, hc]
    rw [readGap.eq_def]
    simp only
    split
    case h_1 heq => exact absurd (by simp [(List.cons.inj heq).1]) hc
    case h_2 heq =>
      cases heq
      simp only [hblank, Bool.not_false, if_true]
    case h_3 hnil => cases hnil

/-- Spaces are kept until there is a line break. -/
theorem readGap_spaces (hrest : Unspaced rest) (hfuel : n < fuel) (blanks : List Char)
    (breaks : Nat) : readGap least fuel blanks breaks ⟨spaces n ++ rest, line, column, offset⟩ =
      some (⟨if breaks = 0 then blanks ++ spaces n else foldBreaks breaks, decide (0 < breaks)⟩,
        ⟨rest, line, column + n, offset + n⟩) := by
  obtain ⟨fuel, rfl⟩ : ∃ k, fuel = k + 1 := ⟨fuel - 1, by omega⟩
  induction n generalizing fuel blanks column offset with
  | zero => simpa using readGap_end hrest blanks breaks
  | succ n ih =>
    obtain ⟨fuel, rfl⟩ : ∃ k, fuel = k + 1 := ⟨fuel - 1, by omega⟩
    have hstep : readGap least (fuel + 1 + 1) blanks breaks
        ⟨spaces (n + 1) ++ rest, line, column, offset⟩ =
          readGap least (fuel + 1) (if breaks = 0 then blanks ++ [' '] else []) breaks
            ⟨spaces n ++ rest, line, column + 1, offset + 1⟩ := by
      simp only [spaces, List.replicate_succ, List.cons_append]
      rw [readGap.eq_def]
      by_cases hb : breaks = 0
      · simp [isBlank, hb, Place.next]
      · simp [isBlank, hb, Place.next]
    rw [hstep, ih _ _ (by omega)]
    by_cases hb : breaks = 0
    · simp only [hb, if_true, List.append_assoc, List.singleton_append, ← List.replicate_succ,
        Nat.add_assoc, Nat.add_comm 1]
    · simp only [hb, if_false, Nat.add_assoc, Nat.add_comm 1]

/-- The spaces between two words of a line. -/
theorem gap?_spaces (hrest : Unspaced rest) : gap? least ⟨spaces n ++ rest, line, column, offset⟩ =
    some (⟨spaces n, false⟩, ⟨rest, line, column + n, offset + n⟩) :=
  readGap_spaces hrest (lt_length_spaces n rest) [] 0

/-- The end of a line, and the margin of the next one. -/
theorem gap?_break (hrest : Unspaced rest) :
    gap? least ⟨'\n' :: (spaces n ++ rest), line, column, offset⟩ =
      some (⟨[' '], true⟩, ⟨rest, line + 1, n, offset + 1 + n⟩) := by
  have hmargin : readGap least ('\n' :: (spaces n ++ rest)).length [] 1
      ⟨spaces n ++ rest, line + 1, 0, offset + 1⟩ =
        some (⟨[' '], true⟩, ⟨rest, line + 1, 0 + n, offset + 1 + n⟩) :=
    readGap_spaces hrest (lt_length_spaces n rest) [] 1
  rw [Nat.zero_add] at hmargin
  exact hmargin

end Gaps

/-! ## Plain scalars -/

section Smooth

variable {before c : Char} {cs ds : List Char}

theorem isSmooth_cons : isSmooth before (c :: cs) = true ↔ 0x20 ≤ c.toNat ∧ isAllowed c = true ∧
    (isBlank before = true → c ≠ '#') ∧ (c = ':' → endsWord cs = false) ∧
    isSmooth c cs = true := by
  simp [isSmooth, and_assoc, imp_iff_not_or]

theorem isSmooth_of_append (h : isSmooth before (cs ++ ds) = true) :
    isSmooth (cs.getLastD before) ds = true := by
  induction cs generalizing before with
  | nil => exact h
  | cons c cs ih =>
    rw [List.getLastD_cons]
    exact ih (isSmooth_cons.mp h).2.2.2.2

theorem of_mem_smooth (h : isSmooth before cs = true) (hc : c ∈ cs) :
    0x20 ≤ c.toNat ∧ isAllowed c = true := by
  induction cs generalizing before with
  | nil => cases hc
  | cons d cs ih =>
    obtain ⟨hlow, hallowed, -, -, hcs⟩ := isSmooth_cons.mp h
    rcases List.mem_cons.mp hc with rfl | hc
    · exact ⟨hlow, hallowed⟩
    · exact ih hcs hc

theorem not_mem_smooth (h : isSmooth before cs = true) : '\n' ∉ cs := fun hmem =>
  absurd (of_mem_smooth h hmem).1 (by decide)

/-- No white space comes first where a word begins. -/
theorem unspaced_of_smooth (h : isSmooth before (c :: cs) = true) (hc : isBlank c = false)
    (rest : List Char) : Unspaced (c :: cs ++ rest) := by
  rintro _ ⟨⟩ hmem
  have hbreak : c ≠ '\n' := fun heq => not_mem_smooth h (heq ▸ List.mem_cons_self)
  simp [isBlank] at hc
  simp [hc, hbreak] at hmem

/-- A smooth text is one word, or a word, some spaces, and more words. -/
theorem smooth_words (h : isSmooth before cs = true) : let word := cs.takeWhile (!isBlank ·)
    cs = word ∨ ∃ n d more, cs = word ++ (spaces (n + 1) ++ d :: more) ∧ isBlank d = false ∧
      d ≠ '#' ∧ isSmooth ' ' (d :: more) = true := by
  intro word
  have hword : word ++ cs.dropWhile (!isBlank ·) = cs := List.takeWhile_append_dropWhile
  cases hrest : cs.dropWhile (!isBlank ·) with
  | nil => exact .inl (by rw [← hword, hrest, List.append_nil])
  | cons e rest =>
    have he : isBlank e = true := by simpa [hrest] using List.head?_dropWhile_not (!isBlank ·) cs
    have hblanks : (e :: rest).takeWhile isBlank ++ (e :: rest).dropWhile isBlank = e :: rest :=
      List.takeWhile_append_dropWhile
    obtain ⟨n, hn⟩ : ∃ n, (e :: rest).takeWhile isBlank = spaces (n + 1) := by
      refine ⟨(rest.takeWhile isBlank).length, List.eq_replicate_iff.mpr ⟨by simp [he], ?_⟩⟩
      intro b hb
      have hmem : b ∈ cs := by
        rw [← hword, hrest]
        exact List.mem_append_right _ ((List.takeWhile_prefix _).subset hb)
      have hblank : b = ' ' ∨ b = '\t' := by simpa [isBlank] using List.mem_takeWhile_imp hb
      rcases hblank with rfl | rfl
      · rfl
      · exact absurd (of_mem_smooth h hmem).1 (by decide)
    rw [hn] at hblanks
    rw [hrest, ← hblanks] at hword
    rw [← hword, ← List.append_assoc] at h
    have hmore := isSmooth_of_append h
    have hlast : (word ++ spaces (n + 1)).getLastD before = ' ' := by
      simp [List.replicate_succ', ← List.append_assoc]
    rw [hlast] at hmore
    cases htail : (e :: rest).dropWhile isBlank with
    | nil =>
      rw [htail] at hmore
      cases hmore
    | cons d more =>
      have hd : isBlank d = false := by
        simpa [htail] using List.head?_dropWhile_not isBlank (e :: rest)
      rw [htail] at hmore hword
      exact .inr ⟨n, d, more, hword.symm, hd, (isSmooth_cons.mp hmore).2.2.1 rfl, hmore⟩

/-- The run of a plain scalar is its first word. -/
theorem plainRun_smooth (h : isSmooth before cs = true) {stop : List Char}
    (hstop : plainRun false stop = []) :
    plainRun false (cs ++ stop) = cs.takeWhile (!isBlank ·) := by
  induction cs generalizing before with
  | nil => exact hstop
  | cons c cs ih =>
    obtain ⟨hlow, -, -, hcolon, hcs⟩ := isSmooth_cons.mp h
    have hbreak : c ≠ '\n' := by
      rintro rfl
      exact absurd hlow (by decide)
    have hcolon' : (c = ':' && endsWord (cs ++ stop)) = false := by
      by_cases hc : c = ':'
      · cases cs with
        | nil => cases hcolon hc
        | cons d cs =>
          have hword : endsWord (d :: cs ++ stop) = endsWord (d :: cs) := rfl
          rw [hword, hcolon hc, Bool.and_false]
      · simp [hc]
    rw [List.cons_append, plainRun, List.takeWhile_cons]
    cases hblank : isBlank c with
    | true => simp
    | false => simp [hbreak, hcolon', ih hcs]

end Smooth

section Plain

variable {least fuel n : Nat} {said word after cs rest : List Char} {gap : Gap}
  {line column offset : Nat}

theorem isDocumentMark_inline (h : 0 < column) :
    (⟨cs, line, column, offset⟩ : Place).isDocumentMark = false := by
  have hcolumn : column ≠ 0 := by omega
  simp [Place.isDocumentMark, Place.isMark, hcolumn]

theorem isMark_of_ne {p : Place} {c d : Char} (hrest : p.rest = c :: cs) (h : c ≠ d) :
    p.isMark d = false := by
  rw [Place.isMark, hrest]
  split
  case h_1 heq => simp [(List.cons.inj heq).1.symm, h]
  case h_2 => exact Bool.and_false _

theorem isDocumentMark_of_ne {c : Char} (hdash : c ≠ '-') (hpoint : c ≠ '.') :
    (⟨c :: cs, line, column, offset⟩ : Place).isDocumentMark = false := by
  rw [Place.isDocumentMark, isMark_of_ne rfl hdash, isMark_of_ne rfl hpoint]
  rfl

/-- A run of a plain scalar. -/
theorem readPlain_run {c : Char} (hword : plainRun false (c :: word ++ after) = c :: word)
    (hinline : '\n' ∉ c :: word)
    (hmark : Place.isDocumentMark ⟨c :: word ++ after, line, column, offset⟩ = false)
    (hsharp : c ≠ '#') :
    readPlain false least (fuel + 1) said gap ⟨c :: word ++ after, line, column, offset⟩ =
      let place : Place := ⟨after, line, column + (c :: word).length, offset + (c :: word).length⟩
      if after.isEmpty || !endsWord after then some (said ++ gap.joint ++ c :: word, false, place)
      else (gap? least place).bind fun (more, next) =>
        if next.column < least then some (said ++ gap.joint ++ c :: word, more.broken, next)
        else readPlain false least fuel (said ++ gap.joint ++ c :: word) more next := by
  have hhead : (c :: word ++ after).head? ≠ some '#' := by simpa using hsharp
  rw [readPlain]
  simp only [hmark, hhead, hword, Place.skip_inline hinline, decide_false, Bool.or_false,
    Bool.false_eq_true, if_false, List.isEmpty_cons, Bool.false_and, Bool.not_false, Bool.true_and,
    Bool.false_or, decide_eq_true_eq]
  rfl

/-- A word of a plain scalar, and the gap after it. -/
theorem readPlain_word {c d : Char} {more : Gap} {next : Place}
    (hword : plainRun false (c :: word ++ d :: after) = c :: word) (hinline : '\n' ∉ c :: word)
    (hmark : Place.isDocumentMark ⟨c :: word ++ d :: after, line, column, offset⟩ = false)
    (hsharp : c ≠ '#') (hends : endsWord (d :: after) = true)
    (hgap : gap? least ⟨d :: after, line, column + (c :: word).length,
      offset + (c :: word).length⟩ = some (more, next)) :
    readPlain false least (fuel + 1) said gap ⟨c :: word ++ d :: after, line, column, offset⟩ =
      if next.column < least then some (said ++ gap.joint ++ c :: word, more.broken, next)
      else readPlain false least fuel (said ++ gap.joint ++ c :: word) more next := by
  rw [readPlain_run hword hinline hmark hsharp]
  simp only [List.isEmpty_cons, hends, hgap, Bool.not_true, Bool.or_false, Bool.false_eq_true,
    if_false, Option.bind_some]

/-- A smooth text is read to the end of its line, word by word. -/
theorem readPlain_line (hrest : Unspaced rest) (hn : n < least) (hcolumn : least ≤ column)
    {before c : Char} (h : isSmooth before (c :: cs) = true) (hc : isBlank c = false)
    (hsharp : c ≠ '#') (hfuel : (c :: cs).length ≤ fuel) :
    readPlain false least fuel said gap
        ⟨c :: cs ++ '\n' :: (spaces n ++ rest), line, column, offset⟩ =
      some (said ++ gap.joint ++ c :: cs, true,
        ⟨rest, line + 1, n, offset + (c :: cs).length + 1 + n⟩) := by
  induction fuel generalizing said gap before c cs column offset with
  | zero => cases hfuel
  | succ fuel ih =>
    have hmark (text : List Char) : Place.isDocumentMark ⟨text, line, column, offset⟩ = false :=
      isDocumentMark_inline (Nat.zero_lt_of_lt (Nat.lt_of_lt_of_le hn hcolumn))
    have hrun : plainRun false (c :: cs ++ '\n' :: (spaces n ++ rest)) = _ :=
      plainRun_smooth h rfl
    have hword : (c :: cs).takeWhile (!isBlank ·) = c :: cs.takeWhile (!isBlank ·) := by simp [hc]
    have hinline : '\n' ∉ c :: cs.takeWhile (!isBlank ·) := fun hmem =>
      not_mem_smooth h ((List.takeWhile_prefix _).subset (hword ▸ hmem))
    rw [hword] at hrun
    rcases smooth_words h with hall | ⟨k, d, more, hsplit, hd, hsharp', hmore⟩
    · rw [hword] at hall
      rw [← hall] at hrun hinline
      rw [readPlain_word hrun hinline (hmark _) hsharp rfl (gap?_break hrest), if_pos hn]
    · rw [hword] at hsplit
      generalize cs.takeWhile (!isBlank ·) = word at hsplit hrun hinline
      have hlength := congrArg List.length hsplit
      simp only [List.length_cons, List.length_append, List.length_replicate] at hlength hfuel
      have hbefore : c :: cs ++ '\n' :: (spaces n ++ rest) =
          c :: word ++ ' ' :: (spaces k ++ (d :: more ++ '\n' :: (spaces n ++ rest))) := by
        rw [hsplit, List.append_assoc, List.append_assoc]
        rfl
      rw [hbefore] at hrun ⊢
      have hunspaced : Unspaced (d :: more ++ '\n' :: (spaces n ++ rest)) :=
        unspaced_of_smooth hmore hd _
      rw [readPlain_word hrun hinline (hmark _) hsharp rfl (gap?_spaces (n := k + 1) hunspaced),
        if_neg (by simp only; omega),
        ih (by omega) hmore hd hsharp' (by simp only [List.length_cons]; omega)]
      have hsaid : said ++ gap.joint ++ c :: word ++ spaces (k + 1) ++ d :: more =
          said ++ gap.joint ++ c :: cs := by
        simp only [hsplit, List.append_assoc]
      have hoffset : offset + (c :: word).length + (k + 1) + (d :: more).length =
          offset + (c :: cs).length := by
        simp only [List.length_cons]
        omega
      rw [hsaid, hoffset]

/-- A text that can stand plain on a line: its first character opens nothing else, and no part of it
ends it. -/
structure Bare (cs : List Char) : Prop where
  smooth : isSmooth ' ' cs = true
  opens : ∃ c rest, cs = c :: rest ∧ isBlank c = false ∧
    (isOpeningSign c = false ∨ c = '-' ∧ endsWord rest = false)

/-- A plain scalar at the end of a line; the margin of the next line belongs to it. -/
theorem plain?_line (h : Bare cs) (hrest : Unspaced rest) (hn : n < least)
    (hcolumn : least ≤ column) :
    plain? false least ⟨cs ++ '\n' :: (spaces n ++ rest), line, column, offset⟩ =
      some (cs, true, ⟨rest, line + 1, n, offset + cs.length + 1 + n⟩) := by
  obtain ⟨c, ds, rfl, hblank, -⟩ := h.opens
  have hsharp : c ≠ '#' := (isSmooth_cons.mp h.smooth).2.2.1 rfl
  exact readPlain_line hrest hn hcolumn h.smooth hblank hsharp (by simp; omega)

/-- A letter, a digit or an underscore. -/
def isNameChar (c : Char) : Bool := c.isAlphanum || c = '_'

theorem nameChar_bounds {c : Char} (h : isNameChar c = true) : 48 ≤ c.toNat ∧ c.toNat ≤ 122 := by
  have hcases : ((65 ≤ c.toNat ∧ c.toNat ≤ 90 ∨ 97 ≤ c.toNat ∧ c.toNat ≤ 122) ∨
      48 ≤ c.toNat ∧ c.toNat ≤ 57) ∨ c = '_' := by
    have h : ((decide (65 ≤ c.val ∧ c.val ≤ 90) || 97 ≤ c.val && c.val ≤ 122) ||
        48 ≤ c.val && c.val ≤ 57 || c = '_') = true := h
    simpa [UInt32.le_iff_toNat_le] using h
  rcases hcases with ((_ | _) | _) | rfl
  · omega
  · omega
  · omega
  · decide

theorem ne_of_nameChar {c d : Char} (h : isNameChar c = true) (hd : isNameChar d = false) :
    c ≠ d := by
  rintro rfl
  cases h.symm.trans hd

theorem isBlank_of_nameChar {c : Char} (h : isNameChar c = true) : isBlank c = false := by
  have hspace : c ≠ ' ' := ne_of_nameChar h rfl
  have htab : c ≠ '\t' := ne_of_nameChar h rfl
  simp [isBlank, hspace, htab]

theorem isAllowed_of_nameChar {c : Char} (h : isNameChar c = true) : isAllowed c = true := by
  have hbounds := nameChar_bounds h
  simp only [isAllowed, Bool.or_eq_true, Bool.and_eq_true, decide_eq_true_eq]
  omega

/-- Names are smooth. -/
theorem isSmooth_of_names {before : Char} (h : ∀ c ∈ cs, isNameChar c = true)
    (hbefore : isBlank before = false ∨ cs ≠ []) : isSmooth before cs = true := by
  induction cs generalizing before with
  | nil => simpa [isSmooth] using hbefore
  | cons c cs ih =>
    rw [List.forall_mem_cons] at h
    obtain ⟨hc, hcs⟩ := h
    have hlow : 0x20 ≤ c.toNat := Nat.le_trans (by decide) (nameChar_bounds hc).1
    exact isSmooth_cons.mpr ⟨hlow, isAllowed_of_nameChar hc, fun _ => ne_of_nameChar hc rfl,
      fun hcolon => absurd hcolon (ne_of_nameChar hc rfl), ih hcs (.inl (isBlank_of_nameChar hc))⟩

/-- A name before a colon. -/
theorem plain?_name {c : Char} (h : ∀ d ∈ c :: cs, isNameChar d = true)
    (hends : endsWord rest = true) :
    plain? false least ⟨c :: cs ++ ':' :: rest, line, column, offset⟩ =
      some (c :: cs, false, ⟨':' :: rest, line, column + (c :: cs).length,
        offset + (c :: cs).length⟩) := by
  have hc := h c List.mem_cons_self
  have hsmooth : isSmooth ' ' (c :: cs) = true := isSmooth_of_names h (.inr (List.cons_ne_nil c cs))
  have hrun : plainRun false (c :: cs ++ ':' :: rest) = c :: cs := by
    have hstop : plainRun false (':' :: rest) = [] := by simp [plainRun, hends]
    rw [plainRun_smooth hsmooth hstop, List.takeWhile_eq_self_iff]
    intro d hd
    rw [isBlank_of_nameChar (h d hd)]
    rfl
  have hmark : Place.isDocumentMark ⟨c :: cs ++ ':' :: rest, line, column, offset⟩ = false :=
    isDocumentMark_of_ne (ne_of_nameChar hc rfl) (ne_of_nameChar hc rfl)
  have hcolon : endsWord (':' :: rest) = false := rfl
  rw [plain?, readPlain_run hrun (not_mem_smooth hsmooth) hmark (ne_of_nameChar hc rfl), hcolon]
  simp

end Plain

end Gatehouse.Yaml
