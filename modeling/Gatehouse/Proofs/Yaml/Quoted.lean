import Gatehouse.Proofs.Numeral
import Gatehouse.Proofs.Yaml.Plain

/-!
# Texts between quotes

Every text can be written between double quotes, and what is written there is read back: runs of
ordinary characters, spaces, and escapes, each as one piece.
-/

namespace Gatehouse.Yaml

/-! ## Codes -/

/-- The last four of five digits. -/
theorem drop_toDigits {m : Nat} (hm : m < 0x10000) : (Nat.toDigits 16 (0x10000 + m)).drop 1 =
    [m / 4096, m / 256 % 16, m / 16 % 16, m % 16].map Nat.digitChar := by
  have hsplit {n k : Nat} (hn : 0 < n) (hk : k < 16) :
      Nat.toDigits 16 (16 * n + k) = Nat.toDigits 16 n ++ [Nat.digitChar k] := by
    rw [← Nat.toDigits_append_toDigits (by decide) hn hk, Nat.toDigits_of_lt_base hk]
  have hsum : 0x10000 + m =
      16 * (16 * (16 * (16 * 1 + m / 4096) + m / 256 % 16) + m / 16 % 16) + m % 16 := by omega
  rw [hsum, hsplit (by omega) (by omega), hsplit (by omega) (by omega),
    hsplit (by omega) (by omega), hsplit (by omega) (by omega)]
  rfl

/-- A character is read from its code. -/
theorem coded?_drop_toDigits {c : Char} (hc : c.toNat < 0x10000) :
    coded? ((Nat.toDigits 16 (0x10000 + c.toNat)).drop 1) 4 = some c := by
  have hdigit {k : Nat} (hk : k < 16) : Numeral.digit? 16 (Nat.digitChar k) = some k :=
    Numeral.digit?_digitChar (by decide) hk
  have hnatural : Numeral.natural? 16
      ([c.toNat / 4096, c.toNat / 256 % 16, c.toNat / 16 % 16, c.toNat % 16].map Nat.digitChar) =
        some c.toNat := by
    have hsmall : c.toNat / 4096 < 16 ∧ c.toNat / 256 % 16 < 16 ∧ c.toNat / 16 % 16 < 16 ∧
        c.toNat % 16 < 16 := by omega
    simp [Numeral.natural?, Numeral.value, hdigit hsmall.1, hdigit hsmall.2.1, hdigit hsmall.2.2.1,
      hdigit hsmall.2.2.2]
    omega
  have hvalid : c.toNat.isValidChar := c.valid
  rw [drop_toDigits hc, coded?, hnatural]
  simp [hvalid]

/-- A character between quotes that belongs to a run of others. -/
def isOrdinary (c : Char) : Bool :=
  isAllowed c && !isBlank c && c ≠ '\n' && c ≠ '\'' && c ≠ '"' && c ≠ '\\'

theorem isOrdinary_iff {c : Char} : isOrdinary c = true ↔ isAllowed c = true ∧ isBlank c = false ∧
    c ≠ '\n' ∧ c ≠ '\'' ∧ c ≠ '"' ∧ c ≠ '\\' := by
  simp [isOrdinary, and_assoc]

/-- How a character stands between double quotes. -/
inductive Escaped (c : Char) : List Char → Prop
  | ordinary (h : isOrdinary c = true) : Escaped c [c]
  | space (h : c = ' ') : Escaped c [c]
  | quote (h : c = '\'') : Escaped c [c]
  | letter (e : Char) (he : isAllowed e = true ∧ e ≠ '\n') (h : escaped? e = some c) :
    Escaped c ['\\', e]
  | code (digits : List Char) (hlength : digits.length = 4)
    (hnames : ∀ d ∈ digits, isNameChar d = true) (h : coded? digits 4 = some c) :
    Escaped c ('\\' :: 'u' :: digits)

theorem Escaped.exists_cons {c : Char} {cs : List Char} (h : Escaped c cs) :
    ∃ d ds, cs = d :: ds := by
  cases h <;> exact ⟨_, _, rfl⟩

theorem escaped_escapeChar (c : Char) : Escaped c (escapeChar c) := by
  rw [escapeChar.eq_def]
  split
  case h_1 => exact .letter '"' (by decide) rfl
  case h_2 => exact .letter '\\' (by decide) rfl
  case h_3 => exact .letter 'n' (by decide) rfl
  case h_4 => exact .letter 'r' (by decide) rfl
  case h_5 => exact .letter 't' (by decide) rfl
  case h_6 hquote hslash hbreak hreturn htab =>
    split
    case isTrue hallowed =>
      by_cases hspace : c = ' '
      · exact .space hspace
      · by_cases hsingle : c = '\''
        · exact .quote hsingle
        · refine .ordinary ?_
          have hblank : isBlank c = false := by simpa [isBlank, hspace] using htab
          exact isOrdinary_iff.mpr ⟨hallowed, hblank, hbreak, hsingle, hquote, hslash⟩
    case isFalse hallowed =>
      have hcode : c.toNat < 0x10000 := by
        by_contra hlarge
        exact hallowed (by simp only [isAllowed, Bool.or_eq_true, decide_eq_true_eq]; omega)
      have hnames : ∀ d ∈ (Nat.toDigits 16 (0x10000 + c.toNat)).drop 1, isNameChar d = true := by
        have hdigits : ∀ k < 16, isNameChar (Nat.digitChar k) = true := by decide
        rw [drop_toDigits hcode]
        intro d hd
        simp only [List.map_cons, List.map_nil, List.mem_cons, List.not_mem_nil, or_false] at hd
        rcases hd with rfl | rfl | rfl | rfl <;> exact hdigits _ (by omega)
      exact .code _ (by rw [drop_toDigits hcode]; rfl) hnames (coded?_drop_toDigits hcode)

/-- What is written between quotes may stand in a YAML text. -/
theorem Escaped.isAllowed {c : Char} {cs : List Char} (h : Escaped c cs) :
    ∀ d ∈ cs, isAllowed d = true := by
  cases h with
  | ordinary h => simpa using (isOrdinary_iff.mp h).1
  | space h | quote h =>
    subst h
    exact List.all_eq_true.mp rfl
  | letter e he => simpa using ⟨rfl, he.1⟩
  | code digits _ hnames =>
    simpa using ⟨rfl, rfl, fun d hd => isAllowed_of_nameChar (hnames d hd)⟩

section Pieces

variable {c : Char} {s cs : List Char}

theorem not_of_mem_head?_dropWhile {test : Char → Bool} (h : c ∈ (cs.dropWhile test).head?) :
    test c = false := by
  have hhead := List.head?_dropWhile_not test cs
  rw [Option.mem_def.mp h] at hhead
  exact hhead

/-- A run ends at a character that stands apart. -/
theorem head?_escaped (h : Escaped c cs) (hc : isOrdinary c = false) :
    ∀ d ∈ cs.head?, d ∈ [' ', '\'', '"', '\\'] := by
  cases h with
  | ordinary h => cases h.symm.trans hc
  | space h | quote h =>
    rintro _ ⟨⟩
    simp [h]
  | letter | code =>
    rintro _ ⟨⟩
    simp

theorem unspaced_escaped (h : Escaped c cs) (hc : c ≠ ' ') : Unspaced cs := by
  cases h with
  | ordinary h =>
    rintro _ ⟨⟩
    obtain ⟨-, hblank, hbreak, -⟩ := isOrdinary_iff.mp h
    simp only [isBlank, Bool.or_eq_false_iff, decide_eq_false_iff_not] at hblank
    simp [hblank, hbreak]
  | space h => exact absurd h hc
  | quote h =>
    rintro _ ⟨⟩
    simp [h]
  | letter | code =>
    rintro _ ⟨⟩
    simp

/-- What comes next between quotes: part of a character, or the closing quote. -/
theorem head?_flatMap_escapeChar {P : Char → Prop} (hquote : P '"')
    (hs : ∀ c ∈ s.head?, ∀ d ∈ (escapeChar c).head?, P d) (rest : List Char) :
    ∀ d ∈ (s.flatMap escapeChar ++ '"' :: rest).head?, P d := by
  cases s with
  | nil =>
    rintro _ ⟨⟩
    exact hquote
  | cons c cs =>
    obtain ⟨e, es, he⟩ := (escaped_escapeChar c).exists_cons
    have hhead := hs c rfl
    rw [he] at hhead
    rw [List.flatMap_cons, he]
    exact hhead

theorem escapeChar_of_ordinary (h : isOrdinary c = true) : escapeChar c = [c] := by
  obtain ⟨hallowed, hblank, hbreak, -, hquote, hslash⟩ := isOrdinary_iff.mp h
  rw [escapeChar.eq_def]
  split
  case h_1 => exact absurd rfl hquote
  case h_2 => exact absurd rfl hslash
  case h_3 => exact absurd rfl hbreak
  case h_4 => cases hallowed
  case h_5 => cases hblank
  case h_6 => rw [if_pos hallowed]

theorem flatMap_escapeChar_of_self (h : ∀ c ∈ s, escapeChar c = [c]) :
    s.flatMap escapeChar = s := by
  induction s with
  | nil => rfl
  | cons c cs ih =>
    rw [List.forall_mem_cons] at h
    rw [List.flatMap_cons, h.1, ih h.2, List.singleton_append]

end Pieces

section Quoted

variable {fuel : Nat} {said cs rest : List Char} {line column offset : Nat} (hcolumn : 0 < column)
include hcolumn

theorem readQuoted_end : readQuoted true (fuel + 1) said ⟨'"' :: rest, line, column, offset⟩ =
    some (said, ⟨rest, line, column + 1, offset + 1⟩) := by
  rw [readQuoted.eq_def]
  simp only [isDocumentMark_inline hcolumn]
  rfl

theorem readQuoted_letter {c e : Char} (he : e ≠ '\n') (h : escaped? e = some c) :
    readQuoted true (fuel + 1) said ⟨'\\' :: e :: rest, line, column, offset⟩ =
      readQuoted true fuel (said ++ [c]) ⟨rest, line, column + 2, offset + 2⟩ := by
  have hinline : '\n' ∉ ['\\', e] := by simpa using Ne.symm he
  have hskip : (⟨'\\' :: e :: rest, line, column, offset⟩ : Place).skip 2 =
      ⟨rest, line, column + 2, offset + 2⟩ := Place.skip_inline hinline
  rw [readQuoted.eq_def]
  simp [isDocumentMark_inline hcolumn, h, hskip]

theorem readQuoted_code {c : Char} {digits : List Char} (hlength : digits.length = 4)
    (hinline : '\n' ∉ digits) (h : coded? digits 4 = some c) :
    readQuoted true (fuel + 1) said ⟨'\\' :: 'u' :: digits ++ rest, line, column, offset⟩ =
      readQuoted true fuel (said ++ [c]) ⟨rest, line, column + 6, offset + 6⟩ := by
  have hinline : '\n' ∉ '\\' :: 'u' :: digits := by simpa using hinline
  have hlength' : ('\\' :: 'u' :: digits).length = 6 := by simp [hlength]
  have hskip : (⟨'\\' :: 'u' :: (digits ++ rest), line, column, offset⟩ : Place).skip 6 =
      ⟨rest, line, column + 6, offset + 6⟩ := hlength' ▸ Place.skip_inline hinline
  have hcode : codeLength? 'u' = some 4 := rfl
  have hescaped : escaped? 'u' = none := rfl
  have htake : (digits ++ rest).take 4 = digits := by rw [← hlength, List.take_left]
  rw [readQuoted.eq_def]
  simp [isDocumentMark_inline hcolumn, hcode, hescaped, htake, h, hskip]

/-- A character that is neither a quote nor begins an escape. -/
theorem readQuoted_other {c : Char} (hquote : c ≠ '"') (hslash : c ≠ '\\') :
    readQuoted true (fuel + 1) said ⟨c :: cs, line, column, offset⟩ =
      let p : Place := ⟨c :: cs, line, column, offset⟩
      if isBlank c || c = '\n' then
        (gap? 0 p).bind fun (gap, after) => readQuoted true fuel (said ++ gap.joint) after
      else
        let (run, after) :=
          p.span fun c => !isBlank c && c ≠ '\n' && c ≠ '\'' && c ≠ '"' && c ≠ '\\'
        if run.isEmpty then readQuoted true fuel (said ++ [c]) p.next
        else readQuoted true fuel (said ++ run) after := by
  rw [readQuoted.eq_def]
  simp only [isDocumentMark_inline hcolumn, Bool.false_eq_true, if_false]
  split
  case h_1 heq => cases heq
  case h_2 => contradiction
  case h_3 => contradiction
  case h_4 heq => exact absurd (List.cons.inj heq).1 hquote
  case h_5 heq => exact absurd (List.cons.inj heq).1 hslash
  case h_6 heq => exact absurd (List.cons.inj heq).1 hslash
  case h_7 heq _ _ _ _ _ =>
    cases heq
    rfl

theorem readQuoted_quote :
    readQuoted true (fuel + 1) said ⟨'\'' :: rest, line, column, offset⟩ =
      readQuoted true fuel (said ++ ['\'']) ⟨rest, line, column + 1, offset + 1⟩ :=
  readQuoted_other hcolumn (by decide) (by decide)

theorem readQuoted_spaces {n : Nat} (hrest : Unspaced rest) :
    readQuoted true (fuel + 1) said ⟨spaces (n + 1) ++ rest, line, column, offset⟩ =
      readQuoted true fuel (said ++ spaces (n + 1))
        ⟨rest, line, column + (n + 1), offset + (n + 1)⟩ := by
  have hother : readQuoted true (fuel + 1) said ⟨spaces (n + 1) ++ rest, line, column, offset⟩ =
      (gap? 0 ⟨spaces (n + 1) ++ rest, line, column, offset⟩).bind fun (gap, after) =>
        readQuoted true fuel (said ++ gap.joint) after :=
    readQuoted_other hcolumn (by decide) (by decide)
  rw [hother, gap?_spaces hrest, Option.bind_some]

theorem readQuoted_run {c : Char} (h : ∀ d ∈ c :: cs, isOrdinary d = true)
    (hrest : ∀ d ∈ rest.head?, d ∈ [' ', '\'', '"', '\\']) :
    readQuoted true (fuel + 1) said ⟨c :: cs ++ rest, line, column, offset⟩ =
      readQuoted true fuel (said ++ c :: cs)
        ⟨rest, line, column + (c :: cs).length, offset + (c :: cs).length⟩ := by
  obtain ⟨-, hblank, hbreak, hsingle, hquote, hslash⟩ := isOrdinary_iff.mp (h c List.mem_cons_self)
  have hinline : '\n' ∉ c :: cs := fun hmem => (isOrdinary_iff.mp (h _ hmem)).2.2.1 rfl
  have hspan : Place.span ⟨c :: cs ++ rest, line, column, offset⟩
      (fun c => !isBlank c && c ≠ '\n' && c ≠ '\'' && c ≠ '"' && c ≠ '\\') =
        (c :: cs, ⟨rest, line, column + (c :: cs).length, offset + (c :: cs).length⟩) := by
    refine Place.span_inline hinline (fun d hd => ?_) fun d hd => ?_
    · simp [isOrdinary_iff.mp (h d hd)]
    · have hapart := hrest d hd
      simp only [List.mem_cons, List.not_mem_nil, or_false] at hapart
      rcases hapart with rfl | rfl | rfl | rfl <;> rfl
  rw [List.cons_append] at hspan ⊢
  rw [readQuoted_other hcolumn hquote hslash]
  simp only [hspan]
  simp [hblank, hbreak]

/-- What stands between quotes is read piece by piece. -/
theorem readQuoted_piece (c : Char) (cs : List Char) : ∃ piece more, c :: cs = piece ++ more ∧
    piece ≠ [] ∧ readQuoted true (fuel + 1) said
        ⟨(c :: cs).flatMap escapeChar ++ '"' :: rest, line, column, offset⟩ =
      readQuoted true fuel (said ++ piece) ⟨more.flatMap escapeChar ++ '"' :: rest, line,
        column + (piece.flatMap escapeChar).length,
        offset + (piece.flatMap escapeChar).length⟩ := by
  have h := escaped_escapeChar c
  generalize hes : escapeChar c = es at h
  have hone : [c].flatMap escapeChar = es := by rw [List.flatMap_singleton, hes]
  cases h with
  | letter e he h =>
    refine ⟨[c], cs, rfl, List.cons_ne_nil _ _, ?_⟩
    rw [hone, List.flatMap_cons, hes]
    exact readQuoted_letter hcolumn he.2 h
  | code digits hlength hnames h =>
    have hinline : '\n' ∉ digits := fun hmem => ne_of_nameChar (hnames _ hmem) rfl rfl
    refine ⟨[c], cs, rfl, List.cons_ne_nil _ _, ?_⟩
    rw [hone, List.flatMap_cons, hes, List.append_assoc, readQuoted_code hcolumn hlength hinline h]
    simp [hlength]
  | quote h =>
    refine ⟨[c], cs, rfl, List.cons_ne_nil _ _, ?_⟩
    rw [hone, List.flatMap_cons, hes, h]
    exact readQuoted_quote hcolumn
  | space h =>
    have hspaces := takeWhile_space cs
    generalize (cs.takeWhile (· = ' ')).length = n at hspaces
    have hcs : c :: cs = spaces (n + 1) ++ cs.dropWhile (· = ' ') := by
      have hcons : spaces (n + 1) = ' ' :: spaces n := rfl
      rw [hcons, List.cons_append, ← hspaces, List.takeWhile_append_dropWhile, h]
    have hself : (spaces (n + 1)).flatMap escapeChar = spaces (n + 1) :=
      flatMap_escapeChar_of_self fun d hd => by
        rw [List.eq_of_mem_replicate hd]
        rfl
    refine ⟨spaces (n + 1), _, hcs, List.cons_ne_nil _ _, ?_⟩
    rw [hcs, List.flatMap_append, hself, List.append_assoc, List.length_replicate]
    refine readQuoted_spaces hcolumn (head?_flatMap_escapeChar (by decide) (fun d hd => ?_) rest)
    have hne : d ≠ ' ' := by simpa using not_of_mem_head?_dropWhile hd
    exact unspaced_escaped (escaped_escapeChar d) hne
  | ordinary h =>
    have hcs : c :: cs = (c :: cs.takeWhile isOrdinary) ++ cs.dropWhile isOrdinary := by
      rw [List.cons_append, List.takeWhile_append_dropWhile]
    have hall : ∀ d ∈ c :: cs.takeWhile isOrdinary, isOrdinary d = true :=
      List.forall_mem_cons.mpr ⟨h, fun d hd => List.mem_takeWhile_imp hd⟩
    have hself : (c :: cs.takeWhile isOrdinary).flatMap escapeChar = c :: cs.takeWhile isOrdinary :=
      flatMap_escapeChar_of_self fun d hd => escapeChar_of_ordinary (hall d hd)
    refine ⟨c :: cs.takeWhile isOrdinary, _, hcs, List.cons_ne_nil _ _, ?_⟩
    rw [hcs, List.flatMap_append, hself, List.append_assoc]
    refine readQuoted_run hcolumn hall (head?_flatMap_escapeChar (by decide) (fun d hd => ?_) rest)
    exact head?_escaped (escaped_escapeChar d) (not_of_mem_head?_dropWhile hd)

omit hcolumn in
/-- **What was written between double quotes is read back.** -/
theorem readQuoted_flatMap (s : List Char) (hcolumn : 0 < column)
    (hfuel : (s.flatMap escapeChar).length < fuel) :
    readQuoted true fuel said ⟨s.flatMap escapeChar ++ '"' :: rest, line, column, offset⟩ =
      some (said ++ s, ⟨rest, line, column + (s.flatMap escapeChar).length + 1,
        offset + (s.flatMap escapeChar).length + 1⟩) := by
  induction fuel generalizing s said column offset with
  | zero => cases hfuel
  | succ fuel ih =>
    cases s with
    | nil =>
      rw [List.append_nil]
      exact readQuoted_end hcolumn
    | cons c cs =>
      obtain ⟨piece, more, hsplit, hne, hpiece⟩ := readQuoted_piece hcolumn c cs
      have hlength : ((c :: cs).flatMap escapeChar).length =
          (piece.flatMap escapeChar).length + (more.flatMap escapeChar).length := by
        rw [hsplit, List.flatMap_append, List.length_append]
      have hpos : 0 < (piece.flatMap escapeChar).length := by
        obtain ⟨d, ds, rfl⟩ := List.exists_cons_of_ne_nil hne
        obtain ⟨e, es, he⟩ := (escaped_escapeChar d).exists_cons
        simp [he]
      rw [hpiece, ih _ (by omega) (by omega), hlength, List.append_assoc, ← hsplit]
      simp only [Nat.add_assoc]

omit hcolumn in
/-- A text between double quotes is read to the closing one. -/
theorem quoted?_escaped (s : List Char) :
    quoted? true ⟨'"' :: s.flatMap escapeChar ++ '"' :: rest, line, column, offset⟩ =
      some (s, ⟨rest, line, column + ('"' :: s.flatMap escapeChar ++ ['"']).length,
        offset + ('"' :: s.flatMap escapeChar ++ ['"']).length⟩) := by
  have hfuel : (s.flatMap escapeChar).length <
      ('"' :: s.flatMap escapeChar ++ '"' :: rest).length + 1 := by
    simp
    omega
  refine (readQuoted_flatMap s (Nat.succ_pos column) hfuel).trans ?_
  simp [Nat.add_assoc, Nat.add_comm 1]

end Quoted

end Gatehouse.Yaml
