import Gatehouse.Proofs.Yaml.Quoted
import Gatehouse.Proofs.Yaml.Scalars
import Gatehouse.Yaml.Token

/-!
# Scanning lines

The scanner takes a text token by token. Between two tokens it stands within a line, or before one
whose margin tells which blocks end there. From either state, one line of a value, of a key or of an
item adds the tokens of this line and leads to the other state, whatever comes behind it.
-/

namespace Gatehouse.Yaml

/-! ## Lines -/

/-- How far the first line of a text is indented. -/
def indentOf (text : List Char) : Nat := (text.takeWhile (· = ' ')).length

/-- A text from its first character on that is no space. -/
def body (text : List Char) : List Char := text.dropWhile (· = ' ')

/-- Neither white space nor a comment comes first. -/
abbrev Tells (rest : List Char) : Prop := ∀ c ∈ rest.head?, c ∉ [' ', '\t', '\n', '#']

section Lines

variable {n : Nat} {c : Char} {cs : List Char}

theorem spaces_append_body (text : List Char) : spaces (indentOf text) ++ body text = text := by
  rw [indentOf, ← takeWhile_space, body, List.takeWhile_append_dropWhile]

theorem indentOf_spaces (hc : c ≠ ' ') : indentOf (spaces n ++ c :: cs) = n := by
  have hall : ∀ d ∈ spaces n, decide (d = ' ') = true := by simp
  rw [indentOf, List.takeWhile_append_of_pos hall]
  simp [hc]

theorem body_spaces (hc : c ≠ ' ') : body (spaces n ++ c :: cs) = c :: cs := by
  have hall : ∀ d ∈ spaces n, decide (d = ' ') = true := by simp
  rw [body, List.dropWhile_append_of_pos hall]
  simp [hc]

theorem length_body_le (text : List Char) : (body text).length ≤ text.length :=
  (List.dropWhile_suffix _).length_le

theorem Tells.unspaced {rest : List Char} (h : Tells rest) : Unspaced rest := fun c hc hmem =>
  h c hc (by simp at hmem ⊢; tauto)

end Lines

/-- The sign of an opening bracket. -/
def Bracket.opener : Bracket → Char
  | square => '['
  | curly => '\x7b'

/-- The sign of a closing bracket. -/
def Bracket.closer : Bracket → Char
  | square => ']'
  | curly => '\x7d'

namespace Scanner

/-! ## Going to the next token -/

/-- The scanner at the next token. -/
def arrive (s : Scanner) : Option Scanner := (skipSpace (s.place.rest.length + 1) s).dropStale

theorem run_succ (fuel : Nat) (s : Scanner) : s.run (fuel + 1) = s.arrive.bind fun s =>
    let s := s.unindent fun i => s.place.column < i
    s.token.bind fun t => if s.place.rest.isEmpty then some t.out.toList.flatten else t.run fuel :=
  rfl

section Arrive

variable {rest : List Char} {line column offset : Nat} {out : Array (List Token)} {is : List Nat}
  {keyAllowed : Bool} {candidate : Option Candidate} {outer : List (Option Candidate)}

/-- Only spaces stand before the next token. -/
theorem skipSpace_spaces {fuel : Nat} (n : Nat) (hrest : Tells rest) (hfuel : n < fuel) :
    skipSpace fuel
        ⟨⟨spaces n ++ rest, line, column, offset⟩, out, is, keyAllowed, candidate, outer⟩ =
      ⟨⟨rest, line, column + n, offset + n⟩, out, is, keyAllowed, candidate, outer⟩ := by
  induction n generalizing fuel column offset with
  | zero =>
    obtain ⟨fuel, rfl⟩ : ∃ k, fuel = k + 1 := ⟨fuel - 1, by omega⟩
    cases rest with
    | nil => rfl
    | cons c cs =>
      have hc := hrest c rfl
      simp only [List.mem_cons, not_or] at hc
      have hnil : spaces 0 ++ c :: cs = c :: cs := rfl
      rw [hnil, skipSpace.eq_def]
      simp only
      split
      case h_5 => rfl
      all_goals
        rename_i heq
        exact absurd (List.cons.inj heq).1 (by simp [hc])
  | succ n ih =>
    obtain ⟨fuel, rfl⟩ : ∃ k, fuel = k + 1 := ⟨fuel - 1, by omega⟩
    have hstep : skipSpace (fuel + 1)
          ⟨⟨spaces (n + 1) ++ rest, line, column, offset⟩, out, is, keyAllowed, candidate, outer⟩ =
        skipSpace fuel ⟨⟨spaces n ++ rest, line, column + 1, offset + 1⟩, out, is, keyAllowed,
          candidate, outer⟩ := rfl
    rw [hstep, ih (by omega), Nat.add_assoc, Nat.add_assoc, Nat.add_comm 1]

/-- The scanner stands at the next token already. -/
theorem skipSpace_self {s : Scanner} (h : Tells s.place.rest) :
    skipSpace (s.place.rest.length + 1) s = s :=
  skipSpace_spaces 0 h (Nat.succ_pos _)

/-- A candidate that need not be a key is given up on a later line. -/
theorem dropStale_later {s : Scanner} (houter : s.outer = [])
    (hold : ∀ c ∈ s.candidate, c.required = false ∧ c.line < s.place.line) :
    s.dropStale = some { s with candidate := none } := by
  obtain ⟨place, out, is, keyAllowed, candidate, outer⟩ := s
  cases houter
  cases candidate with
  | none => rfl
  | some c =>
    obtain ⟨hrequired, hline⟩ := hold c rfl
    have hstale : isStale place c = true := by simp only [isStale, hline, decide_true, Bool.true_or]
    simp [dropStale, hrequired, hstale]

theorem dropStale_fresh {place : Place} {c : Candidate} (h : isStale place c = false) :
    dropStale ⟨place, out, is, keyAllowed, some c, []⟩ =
      some ⟨place, out, is, keyAllowed, some c, []⟩ := by
  simp [dropStale, h]

/-- A candidate outside of a bracket is kept or given up. -/
theorem dropStale_outer {place : Place} (hold : ∀ c ∈ candidate, c.required = false) :
    ∃ candidate', dropStale ⟨place, out, is, keyAllowed, none, [candidate]⟩ =
        some ⟨place, out, is, keyAllowed, none, [candidate']⟩ ∧
      ∀ c ∈ candidate', c ∈ candidate := by
  cases candidate with
  | none => exact ⟨none, rfl, fun _ h => h⟩
  | some c =>
    have hrequired := hold c rfl
    by_cases hstale : isStale place c = true
    · exact ⟨none, by simp [dropStale, hrequired, hstale], by simp⟩
    · exact ⟨some c, by simp [dropStale, hrequired, hstale], fun _ h => h⟩

/-- The next token stands on the same line. -/
theorem arrive_inline {n : Nat} (hrest : Tells rest) :
    arrive ⟨⟨spaces n ++ rest, line, column, offset⟩, out, is, keyAllowed, none, []⟩ =
      some ⟨⟨rest, line, column + n, offset + n⟩, out, is, keyAllowed, none, []⟩ := by
  rw [arrive, skipSpace_spaces n hrest (lt_length_spaces n rest)]
  rfl

/-- The scanner stands at the next token, on a later line than the candidate. -/
theorem arrive_margin (hrest : Tells rest)
    (hold : ∀ c ∈ candidate, c.required = false ∧ c.line < line) :
    arrive ⟨⟨rest, line, column, offset⟩, out, is, keyAllowed, candidate, []⟩ =
      some ⟨⟨rest, line, column, offset⟩, out, is, keyAllowed, none, []⟩ := by
  rw [arrive, skipSpace_self hrest, dropStale_later rfl hold]

/-- The next token stands on the next line. -/
theorem arrive_line {text : List Char} (htext : Tells (body text))
    (hold : ∀ c ∈ candidate, c.required = false ∧ c.line ≤ line) :
    arrive ⟨⟨'\n' :: text, line, column, offset⟩, out, is, keyAllowed, candidate, []⟩ =
      some ⟨⟨body text, line + 1, indentOf text, offset + 1 + indentOf text⟩, out, is, true, none,
        []⟩ := by
  have hfuel : indentOf text < text.length + 1 :=
    Nat.lt_succ_of_le (List.takeWhile_prefix _).length_le
  have hskip : skipSpace (text.length + 1) ⟨⟨spaces (indentOf text) ++ body text, line + 1, 0,
      offset + 1⟩, out, is, true, candidate, []⟩ = _ :=
    skipSpace_spaces _ htext hfuel
  have hstep : skipSpace ((text.length + 1) + 1)
      ⟨⟨'\n' :: text, line, column, offset⟩, out, is, keyAllowed, candidate, []⟩ =
        skipSpace (text.length + 1)
          ⟨⟨text, line + 1, 0, offset + 1⟩, out, is, keyAllowed || true, candidate, []⟩ := rfl
  rw [Bool.or_true] at hstep
  rw [spaces_append_body, Nat.zero_add] at hskip
  have hlater : ∀ c ∈ candidate, c.required = false ∧ c.line < line + 1 := fun c hc =>
    (hold c hc).imp_right Nat.lt_succ_of_le
  show (skipSpace ((text.length + 1) + 1) _).dropStale = _
  rw [hstep, hskip, dropStale_later rfl hlater]

end Arrive

/-! ## States between tokens -/

/-- The scanner stands in a line: nothing before it can be a key, and it is deeper than all open
blocks. -/
structure Inside (s : Scanner) (rest : List Char) (is : List Nat) (ts : List Token) : Prop where
  rest : s.place.rest = rest
  deep : ∀ i ∈ is.head?, i < s.place.column
  indents : s.indents = is
  candidate : s.candidate = none
  outer : s.outer = []
  out : s.out.toList.flatten = ts

/-- The scanner goes on with a line, before which the tokens `ts` end; blocks that are deeper than
the line may have yet to be closed. -/
def Before (s : Scanner) (text : List Char) (is : List Nat) (ts : List Token) : Prop :=
  (body text).length ≤ s.place.rest.length ∧ ∃ line offset out deeper,
    s.arrive = some ⟨⟨body text, line, indentOf text, offset⟩, out, deeper ++ is, true, none, []⟩ ∧
    (∀ i ∈ deeper, indentOf text < i) ∧
    out.toList.flatten ++ List.replicate deeper.length .blockEnd = ts

/-- The scanner comes from one state to another, and each token on the way takes up a character. -/
def Reaches (s t : Scanner) : Prop :=
  ∃ n, n + t.place.rest.length ≤ s.place.rest.length ∧ ∀ fuel, s.run (fuel + n) = t.run fuel

theorem Reaches.refl (s : Scanner) : Reaches s s := ⟨0, by simp, fun _ => rfl⟩

theorem Reaches.trans {s t u : Scanner} (h : Reaches s t) (h' : Reaches t u) : Reaches s u := by
  obtain ⟨n, hn, hrun⟩ := h
  obtain ⟨m, hm, hrun'⟩ := h'
  refine ⟨m + n, by omega, fun fuel => ?_⟩
  rw [← Nat.add_assoc, hrun, hrun']

section Blocks

variable {s : Scanner} {text : List Char} {is : List Nat} {ts : List Token} {i : Nat}

/-- A block that is deeper than the next line ends before it. -/
theorem Before.close (h : Before s text (i :: is) ts) (hi : indentOf text < i) :
    Before s text is (ts ++ [.blockEnd]) := by
  obtain ⟨hlength, line, offset, out, deeper, harrive, hdeeper, rfl⟩ := h
  refine ⟨hlength, line, offset, out, deeper ++ [i], ?_, ?_, ?_⟩
  · rw [harrive, List.append_assoc, List.singleton_append]
  · simpa [or_imp, forall_and] using ⟨hdeeper, hi⟩
  · simp [List.replicate_succ']

theorem closeBlocks_self {tooDeep : Nat → Bool} (his : ∀ i ∈ is.head?, tooDeep i = false)
    (out : Array (List Token)) : closeBlocks tooDeep out is = (out, is) := by
  cases is with
  | nil => rfl
  | cons i is => simp [closeBlocks, his i rfl]

theorem unindent_self {tooDeep : Nat → Bool} (h : ∀ i ∈ s.indents.head?, tooDeep i = false) :
    s.unindent tooDeep = s := by
  rw [unindent, closeBlocks_self h]
  split <;> rfl

theorem closeBlocks_append {tooDeep : Nat → Bool} {deeper : List Nat} (out : Array (List Token))
    (hdeeper : ∀ i ∈ deeper, tooDeep i = true) (his : ∀ i ∈ is.head?, tooDeep i = false) :
    ∃ out', closeBlocks tooDeep out (deeper ++ is) = (out', is) ∧ out'.toList.flatten =
      out.toList.flatten ++ List.replicate deeper.length .blockEnd := by
  induction deeper generalizing out with
  | nil => exact ⟨out, closeBlocks_self his out, by simp⟩
  | cons d deeper ih =>
    rw [List.forall_mem_cons] at hdeeper
    obtain ⟨out', hclose, hout⟩ := ih (out.push [.blockEnd]) hdeeper.2
    refine ⟨out', ?_, ?_⟩
    · rw [List.cons_append, closeBlocks, if_pos hdeeper.1, hclose]
    · simp [hout, List.replicate_succ]

/-- When a line begins, the blocks that it ends are closed. -/
theorem Before.run (h : Before s text is ts) (his : ∀ i ∈ is.head?, i ≤ indentOf text) :
    ∃ line offset out, out.toList.flatten = ts ∧ ∀ fuel, s.run (fuel + 1) =
      (token ⟨⟨body text, line, indentOf text, offset⟩, out, is, true, none, []⟩).bind fun t =>
        if (body text).isEmpty then some t.out.toList.flatten else t.run fuel := by
  obtain ⟨-, line, offset, out, deeper, harrive, hdeeper, rfl⟩ := h
  obtain ⟨out', hclose, hout⟩ := closeBlocks_append out (fun i hi => decide_eq_true (hdeeper i hi))
    fun i hi => decide_eq_false (Nat.not_lt.mpr (his i hi))
  refine ⟨line, offset, out', hout, fun fuel => ?_⟩
  rw [run_succ, harrive, Option.bind_some]
  simp only [unindent, inFlow, List.isEmpty_nil, Bool.not_true, Bool.false_eq_true, if_false,
    hclose]

theorem Before.reaches (h : Before s text is ts) (his : ∀ i ∈ is.head?, i ≤ indentOf text)
    (hne : body text ≠ []) : ∃ line offset out, out.toList.flatten = ts ∧ ∀ t,
      token ⟨⟨body text, line, indentOf text, offset⟩, out, is, true, none, []⟩ = some t →
      t.place.rest.length < (body text).length → Reaches s t := by
  obtain ⟨line, offset, out, hout, hrun⟩ := h.run his
  have hlength := h.1
  refine ⟨line, offset, out, hout, fun t ht hless => ⟨1, by omega, fun fuel => ?_⟩⟩
  rw [hrun, ht, Option.bind_some, if_neg (by simpa using hne)]

/-- In a line no block is closed. What comes next there may become a candidate for a key. -/
theorem Inside.reaches {n : Nat} {rest : List Char} (h : Inside s (spaces n ++ rest) is ts)
    (hrest : Tells rest) (hne : rest ≠ []) : ∃ line column offset out out' keyAllowed candidate,
      let u : Scanner := ⟨⟨rest, line, column, offset⟩, out, is, keyAllowed, none, []⟩
      u.offerKey = some ⟨⟨rest, line, column, offset⟩, out', is, keyAllowed, candidate, []⟩ ∧
      out'.toList.flatten = ts ∧ (∀ i ∈ is.head?, i < column) ∧
      (∀ c ∈ candidate, c.required = false ∧ c.line = line) ∧
      ∀ t, u.token = some t → t.place.rest.length < rest.length → Reaches s t := by
  obtain ⟨⟨text, line, column, offset⟩, out, indents, keyAllowed, candidate, outer⟩ := s
  obtain ⟨htext, hdeep, hindents, hcandidate, houter, hout⟩ := h
  simp only at htext hdeep hindents hcandidate houter hout
  subst htext hindents hcandidate houter
  have hdeeper : ∀ i ∈ indents.head?, i < column + n := fun i hi => Nat.lt_add_right n (hdeep i hi)
  obtain ⟨out', candidate, hoffer, hout', hcandidate⟩ : ∃ out' candidate,
      offerKey ⟨⟨rest, line, column + n, offset + n⟩, out, indents, keyAllowed, none, []⟩ =
        some ⟨⟨rest, line, column + n, offset + n⟩, out', indents, keyAllowed, candidate, []⟩ ∧
      out'.toList.flatten = ts ∧ ∀ c ∈ candidate, c.required = false ∧ c.line = line := by
    cases keyAllowed with
    | false => exact ⟨out, none, rfl, hout, by simp⟩
    | true =>
      refine ⟨out.push [], some _, rfl, by simp [hout], ?_⟩
      rintro _ ⟨⟩
      have hdeeper : indents.head? ≠ some (column + n) :=
        fun heq => Nat.lt_irrefl _ (hdeeper _ heq)
      exact ⟨by simp [inFlow, hdeeper], rfl⟩
  refine ⟨line, column + n, offset + n, out, out', keyAllowed, candidate, hoffer, hout', hdeeper,
    hcandidate, fun t ht hless => ⟨1, by simp at hless ⊢; omega, fun fuel => ?_⟩⟩
  rw [run_succ, arrive_inline hrest, Option.bind_some, unindent_self fun i hi =>
    decide_eq_false (Nat.not_lt.mpr (hdeeper i hi).le)]
  simp only [ht, Option.bind_some]
  rw [if_neg (by simpa using hne)]

end Blocks

/-! ## Scalars -/

section Tokens

variable {s : Scanner} {text cs : List Char} {is : List Nat} {ts : List Token} {i : Nat}

theorem beginsPlain_of_opens {c : Char} (hblank : isBlank c = false)
    (hopens : isOpeningSign c = false ∨ c = '-' ∧ endsWord cs = false) (inFlow : Bool) :
    beginsPlain inFlow c cs = true := by
  rcases hopens with hopens | ⟨rfl, hends⟩
  · have hne {d : Char} (hd : isOpeningSign d = true) : c ≠ d := by
      rintro rfl
      cases hopens.symm.trans hd
    have hsigns : ∀ d ∈ [',', '[', ']', '\x7b', '\x7d', '#', '&', '*', '!', '|', '>', '\'', '"',
        '%', '@', '\x60', '\t'], isOpeningSign d = true ∨ isBlank d = true := by
      simp [isOpeningSign, isBlank]
    have hcontains : c ∉ [',', '[', ']', '\x7b', '\x7d', '#', '&', '*', '!', '|', '>', '\'', '"',
        '%', '@', '\x60', '\t'] := by
      intro hmem
      rcases hsigns c hmem with hsign | hsign
      · cases hopens.symm.trans hsign
      · cases hblank.symm.trans hsign
    have hdash : c ≠ '-' := hne rfl
    have hquestion : c ≠ '?' := hne rfl
    have hcolon : c ≠ ':' := hne rfl
    rw [beginsPlain, if_neg hdash, if_neg (by simp [hquestion, hcolon])]
    simpa using hcontains
  · simp [beginsPlain, hends]

/-- Where a plain text begins, no other token does. -/
theorem token_bare {c : Char} (hrest : s.place.rest = c :: cs)
    (hmark : s.place.isDocumentMark = false) (hblank : isBlank c = false)
    (hopens : isOpeningSign c = false ∨ c = '-' ∧ endsWord cs = false) :
    s.token = s.plainScalar := by
  have hne (d : Char) (hd : isOpeningSign d = true ∧ d ≠ '-') : c ≠ d := by
    rintro rfl
    rcases hopens with hopens | ⟨rfl, -⟩
    · cases hopens.symm.trans hd.1
    · exact hd.2 rfl
  have hpercent : c ≠ '%' := hne '%' (by decide)
  rw [Place.isDocumentMark, Bool.or_eq_false_iff] at hmark
  rw [token]
  simp only [hrest, hmark, hpercent, decide_false, Bool.false_and, Bool.false_eq_true, if_false]
  split
  case h_11 =>
    have hdash : (decide (c = '-') && endsWord cs) = false := by
      rcases hopens with hopens | ⟨-, hends⟩
      · have hdash : c ≠ '-' := by
          rintro rfl
          cases hopens
        rw [decide_eq_false hdash, Bool.false_and]
      · rw [hends, Bool.and_false]
    have hbegins := beginsPlain_of_opens hblank hopens s.inFlow
    simp [hdash, hne '?' (by decide), hne ':' (by decide), hne '|' (by decide),
      hne '>' (by decide), hbegins]
  all_goals exact absurd rfl (hne _ (by decide))

theorem token_quote (hrest : s.place.rest = '"' :: cs) :
    s.token =
      s.property fun p => (quoted? true p).map fun (t, after) => (.scalar false t, after) := by
  simp [token, hrest, isMark_of_ne hrest]

theorem token_opener {b : Bracket} (hrest : s.place.rest = b.opener :: cs) :
    s.token = s.openBracket b := by
  have hdash : s.place.isMark '-' = false := isMark_of_ne hrest (by cases b <;> decide)
  have hpoint : s.place.isMark '.' = false := isMark_of_ne hrest (by cases b <;> decide)
  cases b <;> simp [token, hrest, hdash, hpoint, Bracket.opener]

theorem token_closer {b : Bracket} (hrest : s.place.rest = b.closer :: cs) :
    s.token = s.closeBracket b := by
  have hdash : s.place.isMark '-' = false := isMark_of_ne hrest (by cases b <;> decide)
  have hpoint : s.place.isMark '.' = false := isMark_of_ne hrest (by cases b <;> decide)
  cases b <;> simp [token, hrest, hdash, hpoint, Bracket.closer]

theorem token_colon (hrest : s.place.rest = ':' :: cs) (hends : endsWord cs = true) :
    s.token = s.valueSign := by
  simp [token, hrest, isMark_of_ne hrest, hends]

theorem token_dash (hrest : s.place.rest = '-' :: cs) (hends : endsWord cs = true) :
    s.token = s.blockSign .listStart .item true := by
  have hmark : s.place.isMark '-' = false := by
    rw [Place.isMark, hrest]
    split
    case h_1 heq =>
      obtain ⟨-, rfl⟩ := List.cons.inj heq
      rename_i b _ _
      have hb : b ≠ '-' := by
        rintro rfl
        cases hends
      simp [hb]
    case h_2 => exact Bool.and_false _
  simp [token, hrest, hmark, isMark_of_ne hrest, hends]

/-- The line of a scalar that stands plain. -/
theorem Inside.plain (h : Inside s (' ' :: cs ++ '\n' :: text) (i :: is) ts) (hcs : Bare cs)
    (htext : Tells (body text)) (hi : indentOf text ≤ i) :
    ∃ t, Reaches s t ∧ Before t text (i :: is) (ts ++ [.scalar true cs]) := by
  obtain ⟨c, ds, rfl, hblank, hopens⟩ := hcs.opens
  have hsharp : c ≠ '#' := (isSmooth_cons.mp hcs.smooth).2.2.1 rfl
  have hunspaced : Unspaced (c :: ds ++ '\n' :: text) := unspaced_of_smooth hcs.smooth hblank _
  have htells : Tells (c :: ds ++ '\n' :: text) := by
    rintro _ ⟨⟩ hmem
    have hspace := hunspaced c rfl
    simp only [List.mem_cons, not_or] at hmem hspace
    simp [hsharp, hspace] at hmem
  have h : Inside s (spaces 1 ++ (c :: ds ++ '\n' :: text)) (i :: is) ts := h
  obtain ⟨line, column, offset, out, out', keyAllowed, candidate, hoffer, hout, hdeep, hcandidate,
    hreaches⟩ := h.reaches htells (List.cons_ne_nil _ _)
  have hcolumn : i < column := hdeep i rfl
  have hends : endsWord (ds ++ '\n' :: text) = endsWord ds := by cases ds <;> rfl
  have hmark : Place.isDocumentMark ⟨c :: (ds ++ '\n' :: text), line, column, offset⟩ = false :=
    isDocumentMark_inline (Nat.zero_lt_of_lt hcolumn)
  have hplain : plain? false (i + 1) ⟨c :: ds ++ '\n' :: text, line, column, offset⟩ = _ :=
    spaces_append_body text ▸
      plain?_line hcs htext.unspaced (Nat.lt_succ_of_le hi) hcolumn
  have htoken : token ⟨⟨c :: ds ++ '\n' :: text, line, column, offset⟩, out, i :: is, keyAllowed,
      none, []⟩ = some ⟨⟨body text, line + 1, indentOf text,
        offset + (c :: ds).length + 1 + indentOf text⟩, out'.push [.scalar true (c :: ds)], i :: is,
        true, candidate, []⟩ := by
    rw [token_bare rfl hmark hblank (hends ▸ hopens), plainScalar, hoffer]
    show (plain? false (i + 1) _).bind _ = _
    rw [hplain]
    rfl
  have hless : (body text).length < (c :: ds ++ '\n' :: text).length := by
    have := length_body_le text
    simp
    omega
  have hold : ∀ c ∈ candidate, c.required = false ∧ c.line < line + 1 := fun c hc =>
    (hcandidate c hc).imp_right fun (heq : c.line = line) => by omega
  exact ⟨_, hreaches _ htoken hless, Nat.le_refl _, line + 1, _, _, [], arrive_margin htext hold,
    by simp, by simp [hout]⟩

/-- At the end of a line. -/
theorem before_break {line column offset : Nat} {out : Array (List Token)} {keyAllowed : Bool}
    {candidate : Option Candidate} (htext : Tells (body text))
    (hold : ∀ c ∈ candidate, c.required = false ∧ c.line = line) :
    Before ⟨⟨'\n' :: text, line, column, offset⟩, out, is, keyAllowed, candidate, []⟩ text is
      out.toList.flatten := by
  have hlength := length_body_le text
  exact ⟨by simp only [List.length_cons]; omega, line + 1, _, out, [],
    arrive_line htext fun c hc => (hold c hc).imp_right Nat.le_of_eq, by simp, by simp⟩

theorem Inside.before_line (h : Inside s ('\n' :: text) is ts) (htext : Tells (body text)) :
    Before s text is ts := by
  obtain ⟨⟨rest, line, column, offset⟩, out, indents, keyAllowed, candidate, outer⟩ := s
  obtain ⟨hrest, -, hindents, hcandidate, houter, hout⟩ := h
  simp only at hrest hindents hcandidate houter hout
  subst hrest hindents hcandidate houter hout
  exact before_break htext (by simp)

/-- The line of a text between double quotes. -/
theorem Inside.quoted
    (h : Inside s (' ' :: '"' :: cs.flatMap escapeChar ++ '"' :: '\n' :: text) is ts)
    (htext : Tells (body text)) :
    ∃ t, Reaches s t ∧ Before t text is (ts ++ [.scalar false cs]) := by
  have htells : Tells ('"' :: cs.flatMap escapeChar ++ '"' :: '\n' :: text) := by
    rintro _ ⟨⟩
    decide
  have h : Inside s (spaces 1 ++ ('"' :: cs.flatMap escapeChar ++ '"' :: '\n' :: text)) is ts := h
  obtain ⟨line, column, offset, out, out', keyAllowed, candidate, hoffer, hout, -, hcandidate,
    hreaches⟩ := h.reaches htells (List.cons_ne_nil _ _)
  have htoken : token ⟨⟨'"' :: cs.flatMap escapeChar ++ '"' :: '\n' :: text, line, column, offset⟩,
      out, is, keyAllowed, none, []⟩ = _ := token_quote rfl
  rw [property, hoffer] at htoken
  simp only [Option.bind_eq_bind, Option.bind_some, quoted?_escaped cs, Option.map_some] at htoken
  refine ⟨_, hreaches _ htoken ?_, ?_⟩
  · simp
    omega
  · have hafter : (out'.push [Token.scalar false cs]).toList.flatten =
        ts ++ [.scalar false cs] := by
      simp [hout]
    rw [← hafter]
    exact before_break htext hcandidate

/-- The line of an empty list or table. -/
theorem Inside.brackets (b : Bracket)
    (h : Inside s (' ' :: b.opener :: b.closer :: '\n' :: text) is ts)
    (htext : Tells (body text)) :
    ∃ t, Reaches s t ∧ Before t text is (ts ++ [.opening b, .closing b]) := by
  have htells : Tells (b.opener :: b.closer :: '\n' :: text) := by
    rintro _ ⟨⟩
    cases b <;> decide
  have h : Inside s (spaces 1 ++ (b.opener :: b.closer :: '\n' :: text)) is ts := h
  obtain ⟨line, column, offset, out, out', keyAllowed, candidate, hoffer, hout, -, hcandidate,
    hreaches⟩ := h.reaches htells (List.cons_ne_nil _ _)
  have htoken : token ⟨⟨b.opener :: b.closer :: '\n' :: text, line, column, offset⟩, out, is,
      keyAllowed, none, []⟩ = some ⟨⟨b.closer :: '\n' :: text, line, column + 1, offset + 1⟩,
        out'.push [.opening b], is, true, none, [candidate]⟩ := by
    rw [token_opener rfl, openBracket, hoffer]
    cases b <;> rfl
  let t : Scanner := ⟨⟨b.closer :: '\n' :: text, line, column + 1, offset + 1⟩,
    out'.push [.opening b], is, true, none, [candidate]⟩
  have hskip : skipSpace (t.place.rest.length + 1) t = t := by
    have hrest : Tells (b.closer :: '\n' :: text) := by
      rintro _ ⟨⟩
      cases b <;> decide
    exact skipSpace_self hrest
  obtain ⟨candidate', hdrop, hkept⟩ :
      ∃ candidate', t.dropStale = some { t with outer := [candidate'] } ∧ _ :=
    dropStale_outer fun c hc => (hcandidate c hc).1
  let u : Scanner := ⟨⟨'\n' :: text, line, column + 2, offset + 2⟩,
    (out'.push [.opening b]).push [.closing b], is, false, candidate', []⟩
  have hclose : Reaches t u := by
    refine ⟨1, by simp [t, u]; omega, fun fuel => ?_⟩
    rw [run_succ, arrive, hskip, hdrop]
    show Option.bind (token { t with outer := [candidate'] }) _ = _
    rw [token_closer rfl]
    cases b <;> rfl
  have hout : u.out.toList.flatten = ts ++ [.opening b, .closing b] := by simp [u, hout]
  rw [← hout]
  exact ⟨u, (hreaches t htoken (by simp [t])).trans hclose,
    before_break htext fun c hc => hcandidate c (hkept c hc)⟩

end Tokens

/-! ## Keys and items -/

/-- A block at a column is open already, or opens here. -/
inductive Opens (opener : Token) (column : Nat) : List Nat → List Nat → List Token → Prop
  | already (is : List Nat) : Opens opener column (column :: is) (column :: is) []
  | anew (is : List Nat) (h : ∀ i ∈ is.head?, i < column) :
    Opens opener column is (column :: is) [opener]

section Signs

variable {s : Scanner} {opener : Token} {column : Nat} {rest : List Char} {is js : List Nat}
  {ts opened : List Token}

theorem Opens.le (h : Opens opener column js is opened) : ∀ i ∈ js.head?, i ≤ column := by
  cases h with
  | already =>
    rintro _ ⟨⟩
    exact Nat.le_refl _
  | anew _ h => exact fun i hi => (h i hi).le

theorem Opens.head_eq (h : Opens opener column js is opened) : ∃ is', is = column :: is' := by
  cases h <;> exact ⟨_, rfl⟩

theorem Opens.indent (h : Opens opener column s.indents is opened) (houter : s.outer = []) :
    s.indent column opener = ({ s with indents := is }, opened) := by
  obtain ⟨place, out, indents, keyAllowed, candidate, outer⟩ := s
  cases houter
  cases h with
  | already is =>
    have hdeeper : ¬least ⟨place, out, column :: is, keyAllowed, candidate, []⟩ ≤ column :=
      Nat.not_succ_le_self column
    simp [Scanner.indent, inFlow, hdeeper]
  | anew _ h =>
    have hleast : least ⟨place, out, indents, keyAllowed, candidate, []⟩ ≤ column := by
      cases indents with
      | nil => exact Nat.zero_le _
      | cons i is => exact h i rfl
    simp [Scanner.indent, inFlow, hleast]

/-- The dash before an item. -/
theorem Before.item (h : Before s (spaces column ++ '-' :: rest) js ts)
    (hopens : Opens .listStart column js is opened) (hends : endsWord rest = true) :
    ∃ t, Reaches s t ∧ Inside t rest is (ts ++ opened ++ [.item]) := by
  have hbody : body (spaces column ++ '-' :: rest) = '-' :: rest := body_spaces (by decide)
  have hindent : indentOf (spaces column ++ '-' :: rest) = column := indentOf_spaces (by decide)
  obtain ⟨line, offset, out, hout, hreaches⟩ :=
    h.reaches (by rw [hindent]; exact hopens.le) (by rw [hbody]; exact List.cons_ne_nil _ _)
  rw [hbody, hindent] at hreaches
  let u : Scanner := ⟨⟨'-' :: rest, line, column, offset⟩, out, js, true, none, []⟩
  have htoken : u.token = some ⟨⟨rest, line, column + 1, offset + 1⟩,
      (out.push opened).push [.item], is, true, none, []⟩ := by
    rw [token_dash rfl hends, blockSign, hopens.indent (s := u) rfl]
    rfl
  obtain ⟨is', rfl⟩ := hopens.head_eq
  refine ⟨_, hreaches _ htoken (by simp), rfl, ?_, rfl, rfl, rfl, by simp [hout]⟩
  rintro _ ⟨⟩
  exact Nat.lt_succ_self _

/-- The colon behind a name turns the name into a key: its sign, and that of the block if it opens
here, are put where the name begins. -/
theorem reaches_colon {name : List Char} {line offset : Nat} {out : Array (List Token)}
    {required : Bool} (hopens : Opens .tableStart column js is opened)
    (hlength : name.length ≤ 1024) (hends : endsWord rest = true) :
    Reaches
      ⟨⟨':' :: rest, line, column + name.length, offset + name.length⟩,
        (out.push []).push [.scalar true name], js, false,
        some ⟨out.size, line, column, offset, required⟩, []⟩
      ⟨⟨rest, line, column + name.length + 1, offset + name.length + 1⟩,
        ((out.push (opened ++ [.key])).push [.scalar true name]).push [.value], is, false, none,
        []⟩ := by
  let s : Scanner := ⟨⟨':' :: rest, line, column + name.length, offset + name.length⟩,
    (out.push []).push [.scalar true name], js, false,
    some ⟨out.size, line, column, offset, required⟩, []⟩
  have harrive : s.arrive = some s := by
    have hskip : skipSpace (s.place.rest.length + 1) s = s :=
      skipSpace_self (by rintro _ ⟨⟩; decide)
    have hfits : ¬offset + 1024 < offset + name.length := by omega
    rw [arrive, hskip]
    refine dropStale_fresh ?_
    rw [isStale, decide_eq_false (Nat.lt_irrefl line), decide_eq_false hfits]
    rfl
  have hclose : s.unindent (fun i => s.place.column < i) = s := unindent_self fun i hi =>
    decide_eq_false (Nat.not_lt.mpr ((hopens.le i hi).trans (Nat.le_add_right _ _)))
  have hslot : s.out.setIfInBounds out.size (opened ++ [.key]) =
      (out.push (opened ++ [.key])).push [.scalar true name] := by
    refine Array.ext' ?_
    simp [s]
  have htoken : s.token = some ⟨⟨rest, line, column + name.length + 1, offset + name.length + 1⟩,
      ((out.push (opened ++ [.key])).push [.scalar true name]).push [.value], is, false, none,
      []⟩ := by
    rw [token_colon rfl hends, valueSign]
    simp only [s]
    rw [hopens.indent (s := s) rfl]
    simp only [hslot]
    rfl
  refine ⟨1, by simp; omega, fun fuel => ?_⟩
  rw [run_succ, harrive, Option.bind_some]
  simp only [hclose, htoken]
  rfl

/-- The name of a member, and the colon behind it. -/
theorem Before.key {c : Char} {cs : List Char}
    (h : Before s (spaces column ++ (c :: cs ++ ':' :: rest)) js ts)
    (hopens : Opens .tableStart column js is opened) (hname : ∀ d ∈ c :: cs, isNameChar d = true)
    (hlength : (c :: cs).length ≤ 1024) (hends : endsWord rest = true) :
    ∃ t, Reaches s t ∧
      Inside t rest is (ts ++ opened ++ [.key, .scalar true (c :: cs), .value]) := by
  have hc := hname c List.mem_cons_self
  have hspace : c ≠ ' ' := ne_of_nameChar hc rfl
  have hbody : body (spaces column ++ (c :: cs ++ ':' :: rest)) = c :: cs ++ ':' :: rest :=
    body_spaces hspace
  have hindent : indentOf (spaces column ++ (c :: cs ++ ':' :: rest)) = column :=
    indentOf_spaces hspace
  obtain ⟨line, offset, out, hout, hreaches⟩ :=
    h.reaches (by rw [hindent]; exact hopens.le) (by rw [hbody]; exact List.cons_ne_nil _ _)
  rw [hbody, hindent] at hreaches
  let u : Scanner := ⟨⟨c :: cs ++ ':' :: rest, line, column, offset⟩, out, js, true, none, []⟩
  -- The name leaves room in the output for what turns it into a key.
  have htoken : u.token = some ⟨⟨':' :: rest, line, column + (c :: cs).length,
      offset + (c :: cs).length⟩, (out.push []).push [.scalar true (c :: cs)], js, false,
      some ⟨out.size, line, column, offset, js.head? = some column⟩, []⟩ := by
    have hmark : u.place.isDocumentMark = false :=
      isDocumentMark_of_ne (ne_of_nameChar hc rfl) (ne_of_nameChar hc rfl)
    have hoffer : u.offerKey = some { u with
        candidate := some ⟨out.size, line, column, offset, js.head? = some column⟩
        out := out.push [] } := by
      simp [offerKey, dropKey, inFlow, u]
    have hplain : plain? false u.least u.place = _ := plain?_name hname hends
    rw [token_bare rfl hmark (isBlank_of_nameChar hc) (.inl (isOpeningSign_of_nameChar hc)),
      plainScalar, hoffer]
    show (plain? false u.least u.place).bind _ = _
    rw [hplain]
    rfl
  have hless : (':' :: rest).length < (c :: cs ++ ':' :: rest).length := by
    simp only [List.length_append, List.length_cons]
    omega
  obtain ⟨is', rfl⟩ := hopens.head_eq
  refine ⟨_, (hreaches _ htoken hless).trans (reaches_colon hopens hlength hends), rfl, ?_, rfl,
    rfl, rfl, by simp [hout]⟩
  rintro _ ⟨⟩
  show column < column + (c :: cs).length + 1
  omega

end Signs

end Scanner

end Gatehouse.Yaml
