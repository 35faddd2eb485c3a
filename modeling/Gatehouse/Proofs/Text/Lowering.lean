import Gatehouse.Text.Blank
import Gatehouse.Text.Lowercase
import Mathlib.Data.List.Infix

/-!
# Lower-casing a part of a text

A capital sigma is lower-cased by its place: it takes its final form at the end of a word, that is,
if a character with a case stands before it and none after it. All other characters are lower-cased
by themselves. So a part of a text, when the whole text is lower-cased, comes out as it does alone
exactly if all its sigmas keep their form: `lowerIn_alone_iff`. A text is found in lower case
wherever it stands exactly if it settles the form of all its sigmas by itself:
`found_everywhere_iff`.

The vocabulary is `endsWord`, whether a sigma ends a word where it stands, `lowerIn`, the lower-case
form of a part of a text, `KeepsSigmas`, the sigmas of a part have the form that they have when it
stands alone, and `Settled`, they have it wherever the part stands.
-/

namespace Gatehouse.Text

variable {c : Char} {cs ds before after before' after' mid s pre post needle hay : List Char}

/-! ## Occurrences -/

theorem occursIn_iff : occursIn needle hay = true ↔ needle <:+: hay := by
  induction hay with
  | nil => rw [occursIn, List.isEmpty_iff, List.infix_nil]
  | cons c hay ih =>
    rw [occursIn, Bool.or_eq_true, List.isPrefixOf_iff_prefix, ih, List.infix_cons_iff]

/-! ## The end of a word -/

/-- The first character that is not looked through when the end of a word is sought. -/
def nearest? (cs : List Char) : Option Char := cs.find? fun c => !isCaseIgnorable c

theorem nearest?_append : nearest? (cs ++ ds) = (nearest? cs).or (nearest? ds) :=
  List.find?_append

theorem nearest?_eq_none_iff : nearest? cs = none ↔ ∀ c ∈ cs, isCaseIgnorable c = true := by
  simp [nearest?]

theorem casedAfterIgnorable_eq (cs : List Char) :
    casedAfterIgnorable cs = (nearest? cs).any isCased := by
  induction cs with
  | nil => rfl
  | cons c cs ih =>
    cases hc : isCaseIgnorable c with
    | true =>
      rw [nearest?, List.find?_cons_of_neg (by simp [hc]), ← nearest?, ← ih, casedAfterIgnorable,
        List.dropWhile_cons_of_pos hc]
      rfl
    | false =>
      rw [nearest?, List.find?_cons_of_pos (by simp [hc]), casedAfterIgnorable,
        List.dropWhile_cons_of_neg (by simp [hc])]
      rfl

/-- A sigma between these characters ends a word; those before it are given nearest first. -/
def endsWord (before after : List Char) : Bool :=
  casedAfterIgnorable before && !casedAfterIgnorable after

/-! ## The lower-case form of a part -/

/-- The lower-case form of a character where it stands. -/
def lowerAt (before : List Char) (c : Char) (after : List Char) : List Char :=
  if c = 'Σ' then if endsWord before after then ['ς'] else ['σ'] else lowerChar c

/-- The lower-case form of the part of a text between `before`, given nearest first, and `after`. -/
def lowerIn (before : List Char) : List Char → List Char → List Char
  | [], _ => []
  | c :: rest, after => lowerAt before c (rest ++ after) ++ lowerIn (c :: before) rest after

theorem lowerFrom_append :
    lowerFrom before (mid ++ after) =
      lowerIn before mid after ++ lowerFrom (mid.reverse ++ before) after := by
  induction mid generalizing before with
  | nil => rfl
  | cons c rest ih =>
    rw [List.cons_append, lowerFrom, ih, lowerIn, List.append_assoc, List.reverse_cons,
      List.append_assoc, List.singleton_append]
    rfl

theorem lowerFrom_eq (before mid : List Char) : lowerFrom before mid = lowerIn before mid [] := by
  have happend : lowerFrom before (mid ++ []) =
      lowerIn before mid [] ++ lowerFrom (mid.reverse ++ before) [] := lowerFrom_append
  rwa [List.append_nil, lowerFrom, List.append_nil] at happend

/-- A text is lower-cased part by part, each where it stands. -/
theorem lowerChars_append :
    lowerChars (pre ++ s ++ post) =
      lowerIn [] pre (s ++ post) ++ lowerIn pre.reverse s post ++
        lowerIn (s.reverse ++ pre.reverse) post [] := by
  rw [lowerChars, List.append_assoc, lowerFrom_append, List.append_nil, lowerFrom_append, lowerFrom_eq,
    List.append_assoc]

theorem lowerAt_ne_nil : lowerAt before c after ≠ [] := by
  unfold lowerAt lowerChar
  dsimp only
  repeat' split
  all_goals exact List.cons_ne_nil _ _

theorem lowerIn_eq_nil_iff : lowerIn before mid after = [] ↔ mid = [] := by
  cases mid with
  | nil => simp [lowerIn]
  | cons c rest => simp [lowerIn, lowerAt_ne_nil]

theorem length_lowerAt : (lowerAt before c after).length = (lowerAt before' c after').length := by
  unfold lowerAt
  split
  · split <;> split <;> rfl
  · rfl

theorem length_lowerIn :
    (lowerIn before mid after).length = (lowerIn before' mid after').length := by
  induction mid generalizing before before' with
  | nil => rfl
  | cons c rest ih =>
    rw [lowerIn, lowerIn, List.length_append, List.length_append, length_lowerAt, ih]

/-- A character has one form in two places exactly if it is no sigma or ends a word in both or in
none. -/
theorem lowerAt_eq_iff : lowerAt before c after = lowerAt before' c after' ↔
    (c = 'Σ' → endsWord before after = endsWord before' after') := by
  unfold lowerAt
  by_cases hc : c = 'Σ'
  · simp only [hc, if_true, true_implies]
    cases endsWord before after <;> cases endsWord before' after' <;> decide
  · simp [hc]

/-- A part has one form in two places exactly if all its sigmas have. -/
theorem lowerIn_eq_iff : lowerIn before mid after = lowerIn before' mid after' ↔
    ∀ a b, mid = a ++ 'Σ' :: b →
      endsWord (a.reverse ++ before) (b ++ after) = endsWord (a.reverse ++ before') (b ++ after') := by
  induction mid generalizing before before' with
  | nil => simp [lowerIn]
  | cons c rest ih =>
    rw [lowerIn, lowerIn]
    constructor
    · intro heq a b hsplit
      obtain ⟨hfirst, hrest⟩ := List.append_inj heq length_lowerAt
      cases a with
      | nil =>
        cases hsplit
        exact lowerAt_eq_iff.mp hfirst rfl
      | cons d a =>
        cases hsplit
        simpa using ih.mp hrest a b rfl
    · intro hsigmas
      have hfirst : lowerAt before c (rest ++ after) = lowerAt before' c (rest ++ after') :=
        lowerAt_eq_iff.mpr fun hc => hsigmas [] rest (by rw [hc]; rfl)
      have hrest : lowerIn (c :: before) rest after = lowerIn (c :: before') rest after' :=
        ih.mpr fun a b hsplit => by simpa using hsigmas (c :: a) b (by rw [hsplit]; rfl)
      rw [hfirst, hrest]

/-- The sigmas of a part end words between `pre` and `post` just where they do when it stands
alone. -/
def KeepsSigmas (pre s post : List Char) : Prop :=
  ∀ a b, s = a ++ 'Σ' :: b →
    endsWord (a.reverse ++ pre.reverse) (b ++ post) = endsWord a.reverse b

theorem keepsSigmas_alone : KeepsSigmas [] s [] := by
  intro a b _
  rw [List.reverse_nil, List.append_nil, List.append_nil]

/-- A part comes out as it does alone exactly if its sigmas keep their form. -/
theorem lowerIn_alone_iff : lowerIn pre.reverse s post = lowerChars s ↔ KeepsSigmas pre s post := by
  rw [lowerChars, lowerFrom_eq, lowerIn_eq_iff]
  simp only [List.append_nil, KeepsSigmas]

/-- A part whose sigmas keep their form is found. -/
theorem KeepsSigmas.found (h : KeepsSigmas pre s post) :
    lowerChars s <:+: lowerChars (pre ++ s ++ post) := by
  rw [lowerChars_append, lowerIn_alone_iff.mpr h]
  exact List.infix_append _ _ _

/-! ## Sigmas that are settled -/

/-- Whether a sigma between these characters ends a word does not depend on what stands beyond them:
a character with a case follows, or one without a case comes before, or there is at least one on
each side that is not looked through. -/
def SettledAt (before after : List Char) : Prop :=
  (∃ c ∈ nearest? after, isCased c = true) ∨ (∃ c ∈ nearest? before, isCased c = false) ∨
    ((nearest? before).isSome ∧ (nearest? after).isSome)

instance (before after : List Char) : Decidable (SettledAt before after) :=
  decidable_of_iff ((nearest? after).any isCased = true ∨
    ((nearest? before).any fun c => !isCased c) = true ∨
      ((nearest? before).isSome ∧ (nearest? after).isSome)) (by simp [SettledAt, Option.any_eq_true])

/-- A text settles which of its sigmas end words. -/
def Settled (s : List Char) : Prop := ∀ a b, s = a ++ 'Σ' :: b → SettledAt a.reverse b

theorem endsWord_append :
    endsWord (before ++ before') (after ++ after') =
      (((nearest? before).or (nearest? before')).any isCased &&
        !((nearest? after).or (nearest? after')).any isCased) := by
  rw [endsWord, casedAfterIgnorable_eq, casedAfterIgnorable_eq, nearest?_append, nearest?_append]

theorem SettledAt.endsWord_append (h : SettledAt before after) :
    endsWord (before ++ before') (after ++ after') = endsWord before after := by
  rw [Text.endsWord_append, endsWord, casedAfterIgnorable_eq, casedAfterIgnorable_eq]
  rcases h with ⟨c, hafter, hc⟩ | ⟨c, hbefore, hc⟩ | ⟨hbefore, hafter⟩
  · simp [Option.mem_def.mp hafter, hc]
  · simp [Option.mem_def.mp hbefore, hc]
  · obtain ⟨c, hc⟩ := Option.isSome_iff_exists.mp hbefore
    obtain ⟨d, hd⟩ := Option.isSome_iff_exists.mp hafter
    simp [hc, hd]

theorem Settled.keeps (h : Settled s) (pre post : List Char) : KeepsSigmas pre s post :=
  fun a b hs => (h a b hs).endsWord_append

/-- A sigma that is not settled takes its other form after a letter if only characters that are
looked through stand before it, and before a letter if only such characters follow it. -/
theorem endsWord_ne_of_not_settledAt (h : ¬SettledAt before after) :
    (nearest? before = none ∧ endsWord (before ++ ['A']) after ≠ endsWord before after) ∨
      (nearest? after = none ∧ endsWord before (after ++ ['A']) ≠ endsWord before after) := by
  have hletter : nearest? ['A'] = some 'A' := by decide
  have hcased : isCased 'A' = true := by decide
  simp only [SettledAt, not_or, not_exists, not_and, Option.mem_def] at h
  obtain ⟨hafter, hbefore, hboth⟩ := h
  simp only [endsWord, casedAfterIgnorable_eq, nearest?_append, hletter]
  cases hb : nearest? before with
  | none =>
    left
    cases ha : nearest? after with
    | none => simp [hcased]
    | some d => simp [hcased, hafter d ha]
  | some c =>
    right
    have hc : isCased c = true := by simpa using hbefore c hb
    have hnone : nearest? after = none := by simpa [hb] using hboth
    simp [hnone, hc, hcased]

/-! ## Sigmas that are not settled -/

/-- Numbers above that of the letter a are not its code point. -/
theorem ofNat_ne_of_lt {n : Nat} (h : 'a'.toNat < n) : Char.ofNat n ≠ 'a' := by
  by_cases hn : n.isValidChar
  · rw [Char.ofNat, dif_pos hn]
    intro heq
    have htoNat : n = 'a'.toNat := congrArg Char.toNat heq
    omega
  · rw [Char.ofNat, dif_neg hn]
    decide

/-- Beyond ASCII no character has a partner as low as the letter a. -/
theorem lowerRuns_above : ∀ run ∈ Table.lowerRuns, ('a'.toNat : Int) < run.1 + run.2.2.2 := by
  decide +kernel

/-- No character that is looked through becomes the letter a. -/
theorem not_mem_lowerChar (h : isCaseIgnorable c = true) : 'a' ∉ lowerChar c := by
  unfold lowerChar
  dsimp only
  split
  case isTrue hascii =>
    simp only [isCaseIgnorable, if_pos hascii, Bool.or_eq_true, decide_eq_true_eq] at h
    rcases h with (((rfl | rfl) | rfl) | rfl) | hgrave
    · decide
    · decide
    · decide
    · decide
    · obtain rfl : c = Char.ofNat 0x60 := Char.toNat_inj.mp hgrave
      decide
  case isFalse hascii =>
    split
    · decide
    · split
      case h_1 first last step offset hfind =>
        have hrun := lowerRuns_above _ (List.mem_of_find?_eq_some hfind)
        have hin := List.find?_some hfind
        simp only [Bool.and_eq_true, decide_eq_true_eq] at hin hrun
        rw [List.mem_singleton]
        refine Ne.symm (ofNat_ne_of_lt ?_)
        omega
      case h_2 =>
        rw [List.mem_singleton]
        rintro rfl
        exact hascii (by decide)

theorem not_mem_lowerIn (h : ∀ c ∈ mid, c = 'Σ' ∨ isCaseIgnorable c = true) :
    'a' ∉ lowerIn before mid after := by
  induction mid generalizing before with
  | nil => exact List.not_mem_nil
  | cons c rest ih =>
    obtain ⟨hfirst, hothers⟩ := List.forall_mem_cons.mp h
    rw [lowerIn, List.mem_append, not_or]
    refine ⟨?_, ih hothers⟩
    unfold lowerAt
    split
    · split <;> decide
    case isFalse hc => exact not_mem_lowerChar (hfirst.resolve_left hc)

/-- What occurs in a list with one element more occurs at its beginning or at its end. -/
theorem head?_of_infix_cons {x : Char} (hlength : needle.length = hay.length) (hne : needle ≠ hay)
    (h : needle <:+: x :: hay) : needle.head? = some x := by
  rcases List.infix_cons_iff.mp h with hprefix | hlater
  · cases needle with
    | nil => exact absurd (List.length_eq_zero_iff.mp hlength.symm).symm hne
    | cons y ys => rw [(List.cons_prefix_cons.mp hprefix).1, List.head?_cons]
  · exact absurd (hlater.eq_of_length hlength) hne

theorem getLast?_of_infix_concat {x : Char} (hlength : needle.length = hay.length)
    (hne : needle ≠ hay) (h : needle <:+: hay ++ [x]) : needle.getLast? = some x := by
  rw [← List.reverse_infix, List.reverse_append] at h
  rw [← List.head?_reverse]
  exact head?_of_infix_cons (by simpa using hlength) (by simpa using hne) h

section Unsettled

variable {a b : List Char}

/-- A part does not come out as it does alone if one of its sigmas takes its other form. -/
theorem lowerChars_ne_lowerIn (hs : s = a ++ 'Σ' :: b)
    (hother : endsWord (a.reverse ++ pre.reverse) (b ++ post) ≠ endsWord a.reverse b) :
    lowerChars s ≠ lowerIn pre.reverse s post :=
  fun heq => hother (lowerIn_alone_iff.mp heq.symm a b hs)

theorem length_lowerChars : (lowerChars s).length = (lowerIn before s after).length := by
  rw [lowerChars, lowerFrom_eq, length_lowerIn]

/-- A text is lost behind a letter if one of its sigmas then ends a word and nothing but characters
that are looked through stands before this sigma. -/
theorem not_found_after_letter (hs : s = a ++ 'Σ' :: b) (hnone : nearest? a.reverse = none)
    (hother : endsWord (a.reverse ++ ['A']) b ≠ endsWord a.reverse b) :
    ¬lowerChars s <:+: lowerChars ('A' :: s) := by
  have hpart : lowerChars ('A' :: s) = 'a' :: lowerIn ['A'].reverse s [] := by
    rw [lowerChars, lowerFrom, lowerFrom_eq]
    rfl
  have hne : lowerChars s ≠ lowerIn ['A'].reverse s [] :=
    lowerChars_ne_lowerIn hs (by rwa [List.append_nil])
  intro hfound
  rw [hpart] at hfound
  have hhead : (lowerChars s).head? = some 'a' := head?_of_infix_cons length_lowerChars hne hfound
  -- the text begins with what becomes of these characters and the sigma, which is no a
  have hbegin : lowerChars s =
      lowerIn [] (a ++ ['Σ']) b ++ lowerFrom ((a ++ ['Σ']).reverse ++ []) b := by
    rw [← lowerFrom_append, hs, List.append_assoc]
    rfl
  rw [hbegin, List.head?_append_of_ne_nil _ (by simp [lowerIn_eq_nil_iff])] at hhead
  refine not_mem_lowerIn (fun c hc => ?_) (List.mem_of_head? hhead)
  rcases List.mem_append.mp hc with hc | hc
  · exact .inr (nearest?_eq_none_iff.mp hnone c (List.mem_reverse.mpr hc))
  · exact .inl (List.mem_singleton.mp hc)

/-- A text is lost before a letter if one of its sigmas then ends no word and nothing but characters
that are looked through follows this sigma. -/
theorem not_found_before_letter (hs : s = a ++ 'Σ' :: b) (hnone : nearest? b = none)
    (hother : endsWord a.reverse (b ++ ['A']) ≠ endsWord a.reverse b) :
    ¬lowerChars s <:+: lowerChars (s ++ ['A']) := by
  have hpart : lowerChars (s ++ ['A']) = lowerIn [].reverse s ['A'] ++ ['a'] := by
    rw [lowerChars, lowerFrom_append]
    rfl
  have hne : lowerChars s ≠ lowerIn [].reverse s ['A'] :=
    lowerChars_ne_lowerIn hs (by rwa [List.reverse_nil, List.append_nil])
  intro hfound
  rw [hpart] at hfound
  have hlast : (lowerChars s).getLast? = some 'a' :=
    getLast?_of_infix_concat length_lowerChars hne hfound
  -- the text ends with what becomes of the sigma and these characters, which is no a
  have hend : lowerChars s = lowerIn [] a ('Σ' :: b) ++ lowerIn (a.reverse ++ []) ('Σ' :: b) [] := by
    rw [← lowerFrom_eq, ← lowerFrom_append, hs]
    rfl
  rw [hend, List.getLast?_append_of_ne_nil _ (by simp [lowerIn_eq_nil_iff])] at hlast
  refine not_mem_lowerIn (fun c hc => ?_) (List.mem_of_getLast? hlast)
  rcases List.mem_cons.mp hc with hc | hc
  · exact .inl hc
  · exact .inr (nearest?_eq_none_iff.mp hnone c hc)

end Unsettled

/-- A text is found in lower case wherever it stands exactly if it settles which of its sigmas end
words. -/
theorem found_everywhere_iff :
    (∀ pre post, lowerChars s <:+: lowerChars (pre ++ s ++ post)) ↔ Settled s := by
  constructor
  · intro hfound a b hs
    by_contra hopen
    rcases endsWord_ne_of_not_settledAt hopen with ⟨hnone, hother⟩ | ⟨hnone, hother⟩
    · exact not_found_after_letter hs hnone hother (by simpa using hfound ['A'] [])
    · exact not_found_before_letter hs hnone hother (by simpa using hfound [] ['A'])
  · intro hsettled pre post
    exact (hsettled.keeps pre post).found

end Gatehouse.Text
