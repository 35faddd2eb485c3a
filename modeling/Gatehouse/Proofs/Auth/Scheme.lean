import Gatehouse.Proofs.Auth.Bearer

/-!
# The grammar of authorization values

A value of an authorization header holds a credential in one form only: the word for the scheme in
any letter case, a space, and the credential, with blanks around the whole and in front of the
credential. So a credential is never empty, a token keeps it as it is, and the word alone holds
none, whatever blanks follow. Both transports take the credential of the first value if that is
text, and look at no other.

The vocabulary of the statement is `Spelled`, a value with the credential that it holds.
-/

namespace Gatehouse

namespace Bearer

variable {value credential : String} {word rest : List Char}

/-- The word for the scheme in capital letters. -/
def capitals : List Char := ['B', 'E', 'A', 'R', 'E', 'R']

/-- A value spells a credential: any blanks, the word for the scheme in any letter case, a space,
any blanks, the credential, any blanks. The credential has a character at least, and its first and
its last are not blank. -/
def Spelled (value credential : String) : Prop :=
  ∃ front word gap back, Text.Blanks front ∧ Text.Blanks gap ∧ Text.Blanks back ∧
    value.toList = front ++ (word ++ ' ' :: (gap ++ credential.toList)) ++ back ∧
    Text.InAnyCase word capitals ∧ credential ≠ "" ∧ Text.Trimmed credential.toList

/-! ## The word for the scheme -/

theorem sameIgnoringCase_scheme_iff :
    Text.sameIgnoringCase word scheme = true ↔ Text.InAnyCase word capitals := by
  have hcapitals : Text.Capitals capitals := by decide
  have hlower : scheme.map Char.toLower = capitals.map Char.toLower := by decide
  rw [← Text.sameIgnoringCase_iff hcapitals, Text.sameIgnoringCase, hlower, Text.sameIgnoringCase]

/-- The word for the scheme is not empty. -/
theorem ne_nil_of_inAnyCase (h : Text.InAnyCase word capitals) : word ≠ [] := by
  intro hnil
  rw [hnil] at h
  cases h

/-- The word for the scheme has no blank. -/
theorem visible_of_inAnyCase (h : Text.InAnyCase word capitals) : Text.Visible word := by
  apply h.visible
  decide

theorem space_not_mem_of_inAnyCase (h : Text.InAnyCase word capitals) : ' ' ∉ word := by
  apply space_not_mem_of_scheme
  exact sameIgnoringCase_scheme_iff.mpr h

/-! ## Reading a value -/

/-- A value holds the credential behind the first space if the word for the scheme stands before it,
once the blanks at the ends are gone. -/
theorem credential?_eq_some_iff : credential? value = some credential ↔
    ∃ word rest : String, Text.trim value = word ++ " " ++ rest ∧ ' ' ∉ word.toList ∧
      Text.InAnyCase word.toList capitals ∧ Text.trim rest = credential := by
  constructor
  · intro h
    rw [credential?] at h
    split at h
    case h_1 word rest hcut =>
      split at h
      case isTrue hscheme =>
        cases h
        have hword : Text.InAnyCase word capitals := sameIgnoringCase_scheme_iff.mp hscheme
        refine ⟨String.ofList word, String.ofList rest, ?_, ?_, ?_, ?_⟩
        · apply String.toList_inj.mp
          simpa using Text.eq_of_cutAt hcut
        · rw [String.toList_ofList]
          exact space_not_mem_of_inAnyCase hword
        · rwa [String.toList_ofList]
        · rw [Text.trim, String.toList_ofList]
      case isFalse => cases h
    case h_2 => cases h
  · intro h
    obtain ⟨word, rest, hvalue, hspace, hword, rfl⟩ := h
    have hchars : Text.trimChars value.toList = word.toList ++ ' ' :: rest.toList := by
      simpa using congrArg String.toList hvalue
    rw [credential?, hchars, Text.cutAt_append hspace]
    exact if_pos (sameIgnoringCase_scheme_iff.mpr hword)

/-- What follows a space in a text without blanks at its ends is not all blank. -/
theorem not_blanks_of_trimmed (h : Text.Trimmed (word ++ ' ' :: rest)) : ¬Text.Blanks rest := by
  intro hrest
  have hblanks : Text.Blanks (' ' :: rest) := List.forall_mem_cons.mpr ⟨rfl, hrest⟩
  cases hlast : (' ' :: rest).getLast? with
  | none => cases List.getLast?_eq_none_iff.mp hlast
  | some c =>
    have hblank : Text.isBlank c = true := hblanks c (List.mem_of_getLast? hlast)
    have hvisible : Text.isBlank c = false := by
      apply h.2
      rw [List.getLast?_append_of_ne_nil _ (List.cons_ne_nil _ _)]
      exact hlast
    rw [hvisible] at hblank
    cases hblank

/-- The word for the scheme, a space, and what follows up to a character that is not blank have no
blanks at the ends. -/
theorem trimmed_spelled {gap cs : List Char} (hword : Text.InAnyCase word capitals) (hcs : cs ≠ [])
    (h : Text.Trimmed cs) : Text.Trimmed (word ++ ' ' :: (gap ++ cs)) := by
  have hvisible := visible_of_inAnyCase hword
  constructor
  · rw [List.head?_append_of_ne_nil _ (ne_nil_of_inAnyCase hword)]
    exact hvisible.trimmed.1
  · rw [← List.cons_append, ← List.append_assoc, List.getLast?_append_of_ne_nil _ hcs]
    exact h.2

/-- **A value holds a credential exactly if it spells it.** -/
theorem credential?_eq_some_iff_spelled :
    credential? value = some credential ↔ Spelled value credential := by
  rw [credential?_eq_some_iff]
  constructor
  · intro h
    obtain ⟨word, rest, hvalue, -, hword, rfl⟩ := h
    have hchars : Text.trimChars value.toList = word.toList ++ ' ' :: rest.toList := by
      simpa using congrArg String.toList hvalue
    have htrimmed := Text.trimmed_trimChars value.toList
    rw [hchars] at htrimmed
    obtain ⟨front, back, hfront, hback, hpadded⟩ := Text.exists_padding value.toList
    obtain ⟨gap, tail, hgap, htail, hrest⟩ := Text.exists_padding rest.toList
    refine ⟨front, word.toList, gap, tail ++ back, hfront, hgap, htail.append hback, ?_, hword,
      ?_, ?_⟩
    · rw [hpadded, hchars, Text.toList_trim]
      nth_rewrite 1 [hrest]
      simp
    · intro hempty
      apply not_blanks_of_trimmed htrimmed
      exact Text.trim_eq_empty_iff.mp hempty
    · rw [Text.toList_trim]
      exact Text.trimmed_trimChars rest.toList
  · intro h
    obtain ⟨front, word, gap, back, hfront, hgap, hback, hvalue, hword, hne, htrimmed⟩ := h
    have hcs : credential.toList ≠ [] := mt String.toList_eq_nil_iff.mp hne
    refine ⟨String.ofList word, String.ofList (gap ++ credential.toList), ?_, ?_, ?_, ?_⟩
    · apply String.toList_inj.mp
      rw [Text.toList_trim, hvalue,
        Text.trimChars_padded hfront hback (trimmed_spelled hword hcs htrimmed)]
      simp
    · rw [String.toList_ofList]
      exact space_not_mem_of_inAnyCase hword
    · rwa [String.toList_ofList]
    · have hpadded := Text.trimChars_padded hgap Text.blanks_nil htrimmed
      rw [List.append_nil] at hpadded
      rw [Text.trim, String.toList_ofList, hpadded, String.ofList_toList]

/-- A token keeps a credential as it is. -/
theorem Spelled.parse?_eq (h : Spelled value credential) :
    Token.parse? (some credential) = some ⟨credential⟩ := by
  obtain ⟨_, _, _, _, _, _, _, _, _, hne, htrimmed⟩ := h
  have hpadded := Text.trimChars_padded Text.blanks_nil Text.blanks_nil htrimmed
  rw [List.nil_append, List.append_nil] at hpadded
  have hkept : Text.trim credential = credential := by
    rw [Text.trim, hpadded, String.ofList_toList]
  have hvisible : ¬Text.Blank credential := by
    rw [← Text.trim_eq_empty_iff, hkept]
    exact hne
  rw [Token.parse?_of_not_blank hvisible, hkept]

/-- The word for the scheme holds no credential if nothing but blanks surrounds it. -/
theorem credential?_of_bare {front back : List Char} (hfront : Text.Blanks front)
    (hword : Text.InAnyCase word capitals) (hback : Text.Blanks back) :
    credential? (String.ofList (front ++ word ++ back)) = none := by
  rw [Option.eq_none_iff_forall_ne_some]
  intro credential h
  obtain ⟨first, rest, hvalue, -⟩ := credential?_eq_some_iff.mp h
  have hvisible := visible_of_inAnyCase hword
  have hchars : word = first.toList ++ ' ' :: rest.toList := by
    have htrim := congrArg String.toList hvalue
    rw [Text.toList_trim, String.toList_ofList,
      Text.trimChars_padded hfront hback hvisible.trimmed] at htrim
    simpa using htrim
  apply space_not_mem_of_inAnyCase hword
  simp [hchars]

/-! ## Header values -/

/-- A header value is text exactly if its bytes are tabs and visible ASCII; each is a character
then. -/
theorem text?_eq_some_iff {v : HeaderValue} {text : String} : v.text? = some text ↔
    (∀ b ∈ v.bytes, b = 9 ∨ (0x20 ≤ b ∧ b < 0x7F)) ∧
      text = String.ofList (v.bytes.map fun b => Char.ofNat b.toNat) := by
  have hall : (v.bytes.all fun b => b = 9 || (0x20 ≤ b && b < 0x7F)) = true ↔
      ∀ b ∈ v.bytes, b = 9 ∨ (0x20 ≤ b ∧ b < 0x7F) := by simp
  rw [HeaderValue.text?, ← hall]
  split
  case isTrue h => simp [h, eq_comm]
  case isFalse h => simp [h]

/-- **Authorization values have one grammar.** A value holds a credential exactly if, without the
blanks at its ends, it is the word for the scheme in any letter case, a space and a text of which
this is what is left without the blanks at the ends; so exactly if it spells it. The credential is
then not empty, has no blanks at its ends, and is a token as it is; the word with nothing but blanks
around it holds none. Of header values and of entries of metadata the same one counts, the first, if
it is text; what follows it does not matter. -/
theorem authorization_grammar :
    (∀ value credential, credential? value = some credential ↔
      ∃ word rest : String, Text.trim value = word ++ " " ++ rest ∧ ' ' ∉ word.toList ∧
        Text.InAnyCase word.toList capitals ∧ Text.trim rest = credential) ∧
    (∀ value credential, credential? value = some credential ↔ Spelled value credential) ∧
    (∀ value credential, credential? value = some credential → credential ≠ "" ∧
      Text.Trimmed credential.toList ∧ Token.parse? (some credential) = some ⟨credential⟩) ∧
    (∀ front word back : List Char, Text.Blanks front → Text.InAnyCase word capitals →
      Text.Blanks back → credential? (String.ofList (front ++ word ++ back)) = none) ∧
    (∀ values, fromMetadata? values = fromHeaders? values) ∧
    fromHeaders? [] = none ∧
    (∀ first later, fromHeaders? (first :: later) = first.text?.bind credential?) ∧
    ∀ (v : HeaderValue) (text : String), v.text? = some text ↔
      (∀ b ∈ v.bytes, b = 9 ∨ (0x20 ≤ b ∧ b < 0x7F)) ∧
        text = String.ofList (v.bytes.map fun b => Char.ofNat b.toNat) := by
  refine ⟨fun _ _ => credential?_eq_some_iff, fun _ _ => credential?_eq_some_iff_spelled, ?_,
    fun _ _ _ => credential?_of_bare, fun _ => rfl, rfl, fun _ _ => rfl,
    fun _ _ => text?_eq_some_iff⟩
  intro value credential h
  have hspelled := credential?_eq_some_iff_spelled.mp h
  have hparse := hspelled.parse?_eq
  obtain ⟨_, _, _, _, _, _, _, _, _, hne, htrimmed⟩ := hspelled
  exact ⟨hne, htrimmed, hparse⟩

/-- A value that holds the credential `tok`: `bEARer`, two spaces, `tok`, and a tab. -/
def sampleValue : HeaderValue := ⟨[98, 69, 65, 82, 101, 114, 32, 32, 116, 111, 107, 9], by decide⟩

/-- A value of one byte beyond ASCII. -/
def foreignByte : HeaderValue := ⟨[0xE9], by decide⟩

/-- Blanks beyond ASCII are blanks too; the word alone holds no credential; and a first value that
is no text hides the credential of a second. -/
theorem authorization_grammar_sample :
    credential? "\u3000bEARer \u00a0to  k\t" = some "to  k" ∧
      Token.parse? (some "to  k") = some ⟨"to  k"⟩ ∧
      credential? "Bearer \u3000 " = none ∧
      fromHeaders? [sampleValue, foreignByte] = some "tok" ∧
      fromMetadata? [foreignByte, sampleValue] = none := by
  obtain ⟨-, hspelled, hkept, hbare, hboth, -, hfirst, htext⟩ := authorization_grammar
  have hword : Text.InAnyCase ['b', 'E', 'A', 'R', 'e', 'r'] capitals := by
    simp [Text.InAnyCase, capitals]
  have hvalue : credential? "\u3000bEARer \u00a0to  k\t" = some "to  k" :=
    (hspelled _ _).mpr ⟨['\u3000'], ['b', 'E', 'A', 'R', 'e', 'r'], ['\u00a0'], ['\t'], by decide,
      by decide, by decide, by decide, hword, by decide, by decide⟩
  have hsample : sampleValue.text? = some "bEARer  tok\t" :=
    (htext _ _).mpr ⟨by decide +kernel, by decide +kernel⟩
  have hforeign : foreignByte.text? = none := by
    rw [Option.eq_none_iff_forall_ne_some]
    intro text h
    have hascii := ((htext _ _).mp h).1 0xE9 (by decide)
    revert hascii
    decide
  refine ⟨hvalue, (hkept _ _ hvalue).2.2, ?_, ?_, ?_⟩
  · refine hbare [] ['B', 'e', 'a', 'r', 'e', 'r'] [' ', '\u3000', ' '] (by decide) ?_ (by decide)
    simp [Text.InAnyCase, capitals]
  · rw [hfirst, hsample]
    exact (hspelled "bEARer  tok\t" "tok").mpr ⟨[], ['b', 'E', 'A', 'R', 'e', 'r'], [' '], ['\t'],
      by decide, by decide, by decide, by decide, hword, by decide, by decide⟩
  · rw [hboth, hfirst, hforeign]
    rfl

end Bearer

end Gatehouse
