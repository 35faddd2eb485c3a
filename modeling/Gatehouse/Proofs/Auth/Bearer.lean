import Gatehouse.Auth.TokenVerifier
import Gatehouse.Proofs.Text.Trimming

/-!
# Which header values hold a credential

An authorization value whose text is the word for the scheme, a space and a credential that is not
blank is read as that credential if all of its bytes are ASCII, and as no credential at all if one of
them is not, however well the bytes spell a text. A verifier of signed tokens answers the former with
a caller or with a bad token, and takes the latter for nobody.
-/

namespace Gatehouse

namespace Text

/-! ## ASCII -/

/-- Bytes below 128 are characters each. -/
theorem pieces_of_ascii {bytes : List UInt8} (h : ∀ b ∈ bytes, b < 0x80) :
    pieces bytes = bytes.map fun b => .char (Char.ofNat b.toNat) := by
  induction bytes with
  | nil => rw [pieces]; rfl
  | cons b bs ih =>
    have hb : b < 0x80 := h b List.mem_cons_self
    rw [pieces]
    simp only [firstChar?, if_pos hb, List.drop_zero, List.map_cons]
    rw [ih fun c hc => h c (List.mem_cons_of_mem b hc)]

theorem decodeUtf8?_of_ascii {bytes : List UInt8} (h : ∀ b ∈ bytes, b < 0x80) :
    decodeUtf8? bytes = some (bytes.map fun b => Char.ofNat b.toNat) := by
  rw [decodeUtf8?, pieces_of_ascii h]
  clear h
  induction bytes with
  | nil => rfl
  | cons b bs ih => simp [ih]

end Text

/-! ## Credentials that are not blank -/

namespace Token

theorem parse?_eq_none_iff {raw : Option String} :
    parse? raw = none ↔ ∀ text, raw = some text → Text.Blank text := by
  cases raw with
  | none => simp [parse?]
  | some text => simp [parse?, Text.trim_eq_empty_iff]

theorem parse?_of_not_blank {text : String} (h : ¬Text.Blank text) :
    parse? (some text) = some ⟨Text.trim text⟩ := by
  rw [← Text.trim_eq_empty_iff] at h
  simp [parse?, h]

end Token

/-! ## Values of the scheme -/

namespace Bearer

/-- A word that is the scheme in some letter case has no space. -/
theorem space_not_mem_of_scheme {before : List Char}
    (h : Text.sameIgnoringCase before scheme) : ' ' ∉ before := by
  intro hmem
  have hmap : before.map Char.toLower = scheme.map Char.toLower := by
    simpa [Text.sameIgnoringCase] using h
  have hspace : ' ' ∈ scheme.map Char.toLower := by
    rw [← hmap]
    exact List.mem_map.mpr ⟨' ', hmem, by decide⟩
  revert hspace
  decide

/-- A value that names the scheme and holds a credential: without the blanks around it, it is the
word for the scheme in some letter case, a space, and more that is not blank. -/
structure Presents (v : HeaderValue) (after : List Char) : Prop where
  text : ∃ cs, Text.decodeUtf8? v.bytes = some cs ∧
    ∃ before, Text.trimChars cs = before ++ ' ' :: after ∧ Text.sameIgnoringCase before scheme
  visible : ∃ c ∈ after, Text.isBlank c = false

variable {v : HeaderValue}

/-- A legal byte is visible ASCII, a blank or a tab unless it lies beyond ASCII. -/
theorem ascii_of_isHeaderByte {b : UInt8} (h : isHeaderByte b) (hb : b < 0x80) :
    b = 9 ∨ (0x20 ≤ b ∧ b < 0x7F) := by
  have hlegal : b = 9 ∨ (0x20 ≤ b ∧ b ≠ 0x7F) := by simpa [isHeaderByte] using h
  grind

/-- The text of a header value without bytes beyond ASCII. -/
theorem text?_of_ascii (h : ∀ b ∈ v.bytes, b < 0x80) :
    v.text? = some (String.ofList (v.bytes.map fun b => Char.ofNat b.toNat)) := by
  rw [HeaderValue.text?, if_pos]
  rw [List.all_eq_true]
  intro b hb
  simpa using ascii_of_isHeaderByte (List.all_eq_true.mp v.legal b hb) (h b hb)

/-- A header value with a byte beyond ASCII has no text. -/
theorem text?_of_not_ascii (h : ∃ b ∈ v.bytes, 0x80 ≤ b) : v.text? = none := by
  obtain ⟨b, hb, hge⟩ := h
  rw [HeaderValue.text?, if_neg]
  intro hall
  have hvisible : b = 9 ∨ (0x20 ≤ b ∧ b < 0x7F) := by
    simpa using List.all_eq_true.mp hall b hb
  grind

variable {values : List HeaderValue} {after : List Char}

/-- A credential in ASCII is taken from the first value. -/
theorem fromHeaders?_of_ascii (hfirst : values.head? = some v) (h : Presents v after)
    (hascii : ∀ b ∈ v.bytes, b < 0x80) :
    fromHeaders? values = some (String.ofList (Text.trimChars after)) := by
  obtain ⟨cs, hcs, before, hcut, hscheme⟩ := h.text
  rw [Text.decodeUtf8?_of_ascii hascii, Option.some_inj] at hcs
  simp only [fromHeaders?, hfirst, Option.bind_some, text?_of_ascii hascii, hcs]
  rw [credential?, String.toList_ofList, hcut,
    Text.cutAt_append (space_not_mem_of_scheme hscheme)]
  exact if_pos hscheme

/-- A value with a byte beyond ASCII holds no credential. -/
theorem fromHeaders?_of_not_ascii (hfirst : values.head? = some v)
    (h : ∃ b ∈ v.bytes, 0x80 ≤ b) : fromHeaders? values = none := by
  simp [fromHeaders?, hfirst, text?_of_not_ascii h]

/-- What is presented in ASCII is a credential to a verifier too. -/
theorem parse?_of_presents (h : Presents v after) :
    ∃ token, Token.parse? (some (String.ofList (Text.trimChars after))) = some token := by
  obtain ⟨c, hc, hb⟩ := h.visible
  have hvisible : ¬Text.Blank (String.ofList (Text.trimChars after)) := by
    intro hblank
    have hkept : Text.isBlank c = true := hblank c (by simpa using Text.mem_trimChars hc hb)
    rw [hb] at hkept
    cases hkept
  exact ⟨_, Token.parse?_of_not_blank hvisible⟩

end Bearer

namespace TokenVerifier

/-- A verifier of signed tokens never takes a credential for an absent one. -/
theorem verify_of_parse? {v : TokenVerifier} {now : Int64} {raw : Option String} {token : Token}
    (h : Token.parse? raw = some token) :
    (∃ s, (v.verify now raw).1 = .ok (some s)) ∨
      ∃ why, (v.verify now raw).1 = .error (.invalidToken why) := by
  rw [verify, h]
  cases hs : v.subjectOf now token with
  | ok s => exact .inl ⟨s, by simp [hs, Except.map, Except.mapError]⟩
  | error why => exact .inr ⟨why, by simp [hs, Except.map, Except.mapError]⟩

theorem verify_none {v : TokenVerifier} {now : Int64} : (v.verify now none).1 = .ok none := rfl

end TokenVerifier

end Gatehouse
