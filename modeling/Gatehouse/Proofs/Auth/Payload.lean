import Gatehouse.Proofs.Auth.Verification
import Gatehouse.Proofs.Json.Forms

/-!
# What payloads say

Seven members of a payload have a meaning; each must be of its kind, but for the flag of
administrators, which may be anything. All other members reach the policies as they are. So a caller
has the identifier, the flag and the attributes that the payload says, and no others.

The vocabulary of the statement is `WellTyped`, members of which the seven are of their kinds, and
`Mirrors`, a caller who is what the members say.
-/

namespace Gatehouse

namespace Claims

open Json

variable {x : Json} {ms : Members} {c : Claims}

/-! ## Kinds of claims -/

theorem decodeSeconds_eq_ok {n : Int64} :
    decodeSeconds (toTree x) = .ok n ↔ x = secondsJson n := by
  have hlow := n.le_toInt
  have hhigh := n.toInt_lt
  rw [decodeSeconds, map_eq_ok]
  simp only [signed, whole_eq_ok]
  constructor
  · rintro ⟨i, ⟨rfl, hi, hi'⟩, rfl⟩
    rw [secondsJson, Int64.toInt_ofInt_of_le hi (Int.lt_of_le_sub_one hi')]
  · rintro rfl
    exact ⟨n.toInt, ⟨rfl, hlow, Int.le_sub_one_of_lt hhigh⟩, Int64.ofInt_toInt n⟩

/-- The texts of a list of values that are all texts. -/
theorem mapM_text_eq_some {xs : List Json} {ss : List String} :
    (xs.mapM fun
      | .str s => some s
      | _ => none) = some ss ↔ xs = ss.map .str := by
  induction xs generalizing ss with
  | nil => cases ss <;> simp
  | cons x xs ih =>
    cases x with
    | str s => cases ss <;> simp [Option.bind_eq_some_iff, ih, and_comm]
    | _ => cases ss <;> simp

theorem decodeAudiences_eq_ok {audiences : List String} (hx : Unambiguous x) :
    decodeAudiences .unlimited (toTree x) = .ok audiences ↔ (x = .null ∧ audiences = []) ∨
      (∃ s, x = .str s ∧ audiences = [s]) ∨ x = .arr (audiences.map .str) := by
  rw [decodeAudiences, anything_toTree x hx]
  cases x with
  | null => simp [Bind.bind, Except.bind, Pure.pure, Except.pure, eq_comm]
  | str s => simp [Bind.bind, Except.bind, Pure.pure, Except.pure, eq_comm]
  | arr xs =>
    simp only [Bind.bind, Except.bind, reduceCtorEq, false_and, exists_false, false_or, arr.injEq]
    split
    · rename_i texts htexts
      obtain rfl := mapM_text_eq_some.mp htexts
      rw [List.map_inj_right fun _ _ => str.inj]
      exact ⟨Except.ok.inj, congrArg _⟩
    · rename_i htexts
      refine iff_of_false nofun fun h => ?_
      cases htexts.symm.trans (mapM_text_eq_some.mpr h)
  | _ => exact iff_of_false nofun (by simp)

theorem decodeFlag_eq_ok {b : Bool} (hx : Unambiguous x) :
    decodeFlag .unlimited (toTree x) = .ok b ↔ (b = true ↔ x = .bool true) := by
  rw [decodeFlag, anything_toTree x hx]
  cases x with
  | bool f => cases b <;> cases f <;> simp [Bind.bind, Except.bind, Pure.pure, Except.pure]
  | _ => cases b <;> simp [Bind.bind, Except.bind, Pure.pure, Except.pure]

/-! ## Claims of a payload -/

/-- The members with a meaning. -/
def registered : List String := ["sub", "aud", "exp", "nbf", "iat", "jti", "admin"]

theorem names_form (depth : Depth) : (form depth).names = registered := rfl

/-- The audiences that members name: one text or several, or none. -/
def Audiences (ms : Members) (audiences : List String) : Prop :=
  ((ms.get? "aud" = none ∨ ms.get? "aud" = some .null) ∧ audiences = []) ∨
    (∃ s, ms.get? "aud" = some (.str s) ∧ audiences = [s]) ∨
    ms.get? "aud" = some (.arr (audiences.map .str))

/-- What claims are read from members. -/
structure Says (ms : Members) (c : Claims) : Prop where
  subject : Given ms "sub" .str c.subject
  audiences : Audiences ms c.audiences
  expiry : Given ms "exp" secondsJson c.expiry
  notBefore : Given ms "nbf" secondsJson c.notBefore
  issuedAt : Given ms "iat" secondsJson c.issuedAt
  tokenId : Given ms "jti" .str c.tokenId
  admin : c.admin = true ↔ ms.get? "admin" = some (.bool true)
  extras : c.extras = ms.filter fun m => m.1 ∉ registered

section Fields

variable (hms : Unambiguous (.obj ms))
include hms

theorem unambiguous_of_get? {name : String} (h : ms.get? name = some x) : Unambiguous x := by
  obtain ⟨m, hm, rfl⟩ := Option.map_eq_some_iff.mp h
  exact unambiguousMembers_iff.mp hms.2 m (List.mem_of_find?_eq_some hm)

theorem reads_audiences {audiences : List String} :
    (Form.withDefault "aud" (decodeAudiences .unlimited) []).Reads ms audiences ↔
      Audiences ms audiences := by
  rw [reads_withDefault_iff, Audiences]
  cases hx : ms.get? "aud" with
  | none => simp [eq_comm]
  | some x => simp [decodeAudiences_eq_ok (unambiguous_of_get? hms hx)]

theorem reads_admin {b : Bool} :
    (Form.withDefault "admin" (decodeFlag .unlimited) false).Reads ms b ↔
      (b = true ↔ ms.get? "admin" = some (.bool true)) := by
  rw [reads_withDefault_iff]
  cases hx : ms.get? "admin" with
  | none => simp [eq_comm]
  | some x => simp [decodeFlag_eq_ok (unambiguous_of_get? hms hx)]

/-- The form reads what the members say of the claims with a meaning. -/
theorem reads_form {make : Members → Claims} :
    (form .unlimited).Reads ms make ↔ ∃ subject audiences expiry notBefore issuedAt tokenId admin,
      Given ms "sub" .str subject ∧ Audiences ms audiences ∧ Given ms "exp" secondsJson expiry ∧
      Given ms "nbf" secondsJson notBefore ∧ Given ms "iat" secondsJson issuedAt ∧
      Given ms "jti" .str tokenId ∧ (admin = true ↔ ms.get? "admin" = some (.bool true)) ∧
      mk subject audiences expiry notBefore issuedAt tokenId admin = make := by
  have htext (name : String) (o : Option String) :
      (Form.absentOk name string).Reads ms o ↔ Given ms name .str o :=
    reads_absentOk_iff (fun _ _ => string_eq_ok) fun _ => nofun
  have htime (name : String) (o : Option Int64) :
      (Form.absentOk name decodeSeconds).Reads ms o ↔ Given ms name secondsJson o :=
    reads_absentOk_iff (fun _ _ => decodeSeconds_eq_ok) fun _ => nofun
  simp only [form, Form.reads_seq_iff, Form.reads_map_iff, htext, htime, reads_audiences hms,
    reads_admin hms]
  constructor
  · rintro ⟨_, admin, ⟨_, tokenId, ⟨_, issuedAt, ⟨_, notBefore, ⟨_, expiry, ⟨_, audiences,
      ⟨subject, hsub, rfl⟩, haud, rfl⟩, hexp, rfl⟩, hnbf, rfl⟩, hiat, rfl⟩, hjti, rfl⟩, hadmin, rfl⟩
    exact ⟨subject, audiences, expiry, notBefore, issuedAt, tokenId, admin, hsub, haud, hexp, hnbf,
      hiat, hjti, hadmin, rfl⟩
  · rintro ⟨subject, audiences, expiry, notBefore, issuedAt, tokenId, admin, hsub, haud, hexp, hnbf,
      hiat, hjti, hadmin, rfl⟩
    exact ⟨_, admin, ⟨_, tokenId, ⟨_, issuedAt, ⟨_, notBefore, ⟨_, expiry, ⟨_, audiences,
      ⟨subject, hsub, rfl⟩, haud, rfl⟩, hexp, rfl⟩, hnbf, rfl⟩, hiat, rfl⟩, hjti, rfl⟩, hadmin, rfl⟩

/-- The claims that are read from an object are those that its members say. -/
theorem ofJson_obj_eq_ok : ofJson (.obj ms) = .ok c ↔ Says ms c := by
  have hobject (make : Members → Claims) (rest : Members) :
      (form .unlimited).ofObject (.keep .unlimited) (toMemberTrees ms) none = .ok (make, rest) ↔
        (form .unlimited).Reads ms make ∧ rest = ms.filter fun m => m.1 ∉ registered := by
    rw [← names_form .unlimited]
    exact Form.ofObject_eq_ok (by decide) hms
  have hkept : Members.ofMentions (ms.filter fun m => m.1 ∉ registered) =
      ms.filter fun m => m.1 ∉ registered :=
    Members.ofMentions_of_nodup (hms.1.sublist (List.filter_sublist.map _))
  constructor
  · intro h
    obtain ⟨⟨make, rest⟩, hread, h⟩ := bind_eq_ok.mp h
    obtain ⟨hreads, rfl⟩ := (hobject make rest).mp hread
    obtain ⟨_, _, _, _, _, _, _, hsub, haud, hexp, hnbf, hiat, hjti, hadmin, rfl⟩ :=
      (reads_form hms).mp hreads
    cases h
    exact ⟨hsub, haud, hexp, hnbf, hiat, hjti, hadmin, hkept⟩
  · rintro ⟨hsub, haud, hexp, hnbf, hiat, hjti, hadmin, hextras⟩
    have hreads := (reads_form hms).mpr ⟨_, _, _, _, _, _, _, hsub, haud, hexp, hnbf, hiat, hjti,
      hadmin, rfl⟩
    refine bind_eq_ok.mpr ⟨_, (hobject _ _).mpr ⟨hreads, rfl⟩, congrArg Except.ok ?_⟩
    rw [hkept, ← hextras]

end Fields

/-- Members of which those with a meaning are of their kinds: each may be absent or null, and the
flag of administrators may be anything. -/
structure WellTyped (ms : Members) : Prop where
  texts : ∀ name ∈ ["sub", "jti"], ∀ x, ms.get? name = some x → x = .null ∨ ∃ s, x = .str s
  times : ∀ name ∈ ["exp", "nbf", "iat"], ∀ x, ms.get? name = some x →
    x = .null ∨ ∃ i, x = .int i ∧ Int64.minValue.toInt ≤ i ∧ i ≤ Int64.maxValue.toInt
  audiences : ∀ x, ms.get? "aud" = some x →
    x = .null ∨ (∃ s, x = .str s) ∨ ∃ ss : List String, x = .arr (ss.map .str)

theorem exists_secondsJson_iff : (∃ n, x = secondsJson n) ↔
    ∃ i, x = .int i ∧ Int64.minValue.toInt ≤ i ∧ i ≤ Int64.maxValue.toInt := by
  constructor
  · rintro ⟨n, rfl⟩
    exact ⟨n.toInt, rfl, n.minValue_le_toInt, n.toInt_le⟩
  · rintro ⟨i, rfl, hlow, hhigh⟩
    have hexact : (Int64.ofInt i).toInt = i :=
      Int64.toInt_ofInt_of_le hlow (Int.lt_of_le_sub_one hhigh)
    exact ⟨Int64.ofInt i, by rw [secondsJson, hexact]⟩

theorem exists_audiences_iff : (∃ audiences, Audiences ms audiences) ↔
    ∀ x, ms.get? "aud" = some x →
      x = .null ∨ (∃ s, x = .str s) ∨ ∃ ss : List String, x = .arr (ss.map .str) := by
  constructor
  · rintro ⟨audiences, ⟨hnone | hnull, -⟩ | ⟨s, hs, -⟩ | hlist⟩ x hx
    · cases hnone.symm.trans hx
    · cases hnull.symm.trans hx
      exact .inl rfl
    · cases hs.symm.trans hx
      exact .inr (.inl ⟨s, rfl⟩)
    · cases hlist.symm.trans hx
      exact .inr (.inr ⟨audiences, rfl⟩)
  · intro h
    cases hx : ms.get? "aud" with
    | none => exact ⟨[], .inl ⟨.inl hx, rfl⟩⟩
    | some x =>
      rcases h x hx with rfl | ⟨s, rfl⟩ | ⟨ss, rfl⟩
      · exact ⟨[], .inl ⟨.inr hx, rfl⟩⟩
      · exact ⟨[s], .inr (.inl ⟨s, hx, rfl⟩)⟩
      · exact ⟨ss, .inr (.inr hx)⟩

/-- There are claims that members say exactly if those with a meaning are of their kinds. -/
theorem exists_says_iff : (∃ c, Says ms c) ↔ WellTyped ms := by
  constructor
  · rintro ⟨c, h⟩
    refine ⟨fun name hname => ?_, fun name hname => ?_, exists_audiences_iff.mp ⟨_, h.audiences⟩⟩
    · simp only [List.mem_cons, List.not_mem_nil, or_false] at hname
      rcases hname with rfl | rfl
      · exact exists_given_iff.mp ⟨_, h.subject⟩
      · exact exists_given_iff.mp ⟨_, h.tokenId⟩
    · simp only [List.mem_cons, List.not_mem_nil, or_false] at hname
      simp only [← exists_secondsJson_iff]
      rcases hname with rfl | rfl | rfl
      · exact exists_given_iff.mp ⟨_, h.expiry⟩
      · exact exists_given_iff.mp ⟨_, h.notBefore⟩
      · exact exists_given_iff.mp ⟨_, h.issuedAt⟩
  · rintro ⟨htexts, htimes, haudiences⟩
    simp only [← exists_secondsJson_iff] at htimes
    obtain ⟨subject, hsub⟩ := exists_given_iff.mpr (htexts "sub" (by simp))
    obtain ⟨tokenId, hjti⟩ := exists_given_iff.mpr (htexts "jti" (by simp))
    obtain ⟨expiry, hexp⟩ := exists_given_iff.mpr (htimes "exp" (by simp))
    obtain ⟨notBefore, hnbf⟩ := exists_given_iff.mpr (htimes "nbf" (by simp))
    obtain ⟨issuedAt, hiat⟩ := exists_given_iff.mpr (htimes "iat" (by simp))
    obtain ⟨audiences, haud⟩ := exists_audiences_iff.mpr haudiences
    obtain ⟨admin, hadmin⟩ : ∃ b : Bool, b = true ↔ ms.get? "admin" = some (.bool true) := by
      by_cases h : ms.get? "admin" = some (.bool true)
      · exact ⟨true, by simp [h]⟩
      · exact ⟨false, by simp [h]⟩
    exact ⟨⟨subject, audiences, expiry, notBefore, issuedAt, tokenId, admin, _⟩, hsub, haud, hexp,
      hnbf, hiat, hjti, hadmin, rfl⟩

/-! ## Callers -/

theorem toSubject_eq_ok {s : Subject} :
    c.toSubject = .ok s ↔ ∃ id, c.subject = some id ∧ id ≠ "" ∧ ⟨id, c.admin, c.extras⟩ = s := by
  constructor
  · intro h
    by_cases hnamed : ∃ id, c.subject = some id ∧ id ≠ ""
    · obtain ⟨id, hid, hne⟩ := hnamed
      exact ⟨id, hid, hne, Except.ok.inj ((TokenVerifier.toSubject_of_named hid hne).symm.trans h)⟩
    · have hunnamed : ∀ id, c.subject = some id → id = "" := by simpa using hnamed
      cases (TokenVerifier.toSubject_of_unnamed hunnamed).symm.trans h
  · rintro ⟨id, hid, hne, rfl⟩
    exact TokenVerifier.toSubject_of_named hid hne

end Claims

/-- A caller who is what members of a payload say: identifier and flag are told by their members, and
the attributes are the members without a meaning. -/
structure Subject.Mirrors (s : Subject) (ms : Members) : Prop where
  id : ms.get? "sub" = some (.str s.id)
  admin : s.admin = true ↔ ms.get? "admin" = some (.bool true)
  kept : ∀ name, name ∉ Claims.registered → s.attribute? name = ms.get? name
  left : ∀ name ∈ Claims.registered, s.attribute? name = none
  flag : ∀ name, s.flag name = true ↔ s.attribute? name = some (.bool true)

theorem Subject.flag_eq_true {s : Subject} {name : String} :
    s.flag name = true ↔ s.attribute? name = some (.bool true) := by
  rw [flag]
  split
  · rename_i b hb
    simp [hb]
  · rename_i hother
    simpa using fun hb => hother true hb

namespace Claims

variable {ms : Members} {c : Claims}

/-- Claims name a caller exactly if the members name one. -/
theorem Says.exists_subject_iff (h : Says ms c) :
    (∃ s, c.toSubject = .ok s) ↔ ∃ id, ms.get? "sub" = some (.str id) ∧ id ≠ "" := by
  have hsub := h.subject
  simp only [toSubject_eq_ok]
  constructor
  · rintro ⟨_, id, hid, hne, -⟩
    rw [hid] at hsub
    exact ⟨id, hsub, hne⟩
  · rintro ⟨id, hid, hne⟩
    cases hc : c.subject with
    | none =>
      rw [hc] at hsub
      rcases hsub with hnone | hnull
      · cases hnone.symm.trans hid
      · cases hnull.symm.trans hid
    | some id' =>
      rw [hc] at hsub
      cases hsub.symm.trans hid
      exact ⟨_, id, rfl, hne, rfl⟩

/-- The caller whom claims name is what the members say. -/
theorem Says.mirrors (h : Says ms c) {s : Subject} (hs : c.toSubject = .ok s) : s.Mirrors ms := by
  obtain ⟨id, hid, -, rfl⟩ := toSubject_eq_ok.mp hs
  have hsub := h.subject
  rw [hid] at hsub
  have hattribute (name : String) : (⟨id, c.admin, c.extras⟩ : Subject).attribute? name =
      if name ∈ registered then none else ms.get? name := by
    rw [Subject.attribute?, h.extras]
    exact Members.get?_filter registered ms name
  refine ⟨hsub, h.admin, fun name hname => ?_, fun name hname => ?_, fun _ => Subject.flag_eq_true⟩
  · rw [hattribute, if_neg hname]
  · rw [hattribute, if_pos hname]

end Claims

/-! ## Payloads of tokens -/

theorem SignedToken.unambiguous_of_readPart? {depth : Json.Depth} {part : List Char} {x : Json}
    (h : readPart? (Json.anything depth) part = some x) : x.Unambiguous := by
  obtain ⟨bytes, -, h⟩ := Option.bind_eq_some_iff.mp h
  obtain ⟨cs, -, h⟩ := Option.bind_eq_some_iff.mp h
  cases hread : Json.decodeChars (Json.anything depth) cs with
  | error fault => simp [hread, Except.toOption] at h
  | ok y =>
    rw [hread] at h
    cases h
    exact Json.unambiguous_of_decodeChars hread

theorem SignedToken.unambiguous_of_payload? {key : PublicKey} {a : Algorithm} {text : String}
    {x : Json} (h : payload? key a text = some x) : x.Unambiguous := by
  obtain ⟨parts, -, h⟩ := Option.bind_eq_some_iff.mp h
  obtain ⟨signature, -, h⟩ := Option.bind_eq_some_iff.mp h
  split at h
  · obtain ⟨payload, hpayload, h⟩ := Option.bind_eq_some_iff.mp h
    obtain ⟨_, -, h⟩ := Option.bind_eq_some_iff.mp h
    cases h
    exact unambiguous_of_readPart? hpayload
  · cases h

namespace Claims

theorem exists_obj_of_ofJson {x : Json} {c : Claims} (h : ofJson x = .ok c) : ∃ ms, x = .obj ms := by
  by_contra hno
  have hother : ofJson x = Json.expected "struct Claims" x.toTree := by
    cases x with
    | obj ms => exact absurd ⟨ms, rfl⟩ hno
    | _ => rfl
  exact Json.expected_ne_ok (hother.symm.trans h)

/-- A token that a verifier accepts bears members of which the caller is the mirror. -/
theorem mirrors_of_accepts {keyText : List UInt8} {algorithms : List Algorithm} {check : ClaimCheck}
    {v : TokenVerifier} {now : Int64} {text : String} {s : Subject}
    (hv : TokenVerifier.Made keyText algorithms check v) (h : TokenVerifier.Accepts v now text s) :
    ∃ ms, TokenVerifier.Signed v text (.obj ms) ∧ s.Mirrors ms := by
  obtain ⟨_, key, -, -, rfl⟩ := hv.eq
  obtain ⟨⟨signed, decoded⟩, -, named, nonempty⟩ := h
  obtain ⟨ms, rfl⟩ := exists_obj_of_ofJson decoded
  have hms : Json.Unambiguous (.obj ms) := by
    obtain ⟨-, -, signature⟩ := signed
    exact SignedToken.unambiguous_of_payload? signature
  have hclaims := (ofJson_obj_eq_ok hms).mp decoded
  exact ⟨ms, signed, hclaims.mirrors (TokenVerifier.toSubject_of_named named nonempty)⟩

/-! ## The headline -/

/-- **Claims reach policies as they are.** No payload of a token names a member twice, nor does any
other value that was read. Of such values just the objects are claims of which the members with a
meaning are of their kinds; the claims name a caller exactly if their subject is a text that is not
empty, and the caller is what the members say. So it is for each caller whom a verifier finds. -/
theorem payload_reaches_policies :
    (∀ (text : String) (x : Json), Json.decodeText (Json.anything 0) text = .ok x →
      x.Unambiguous) ∧
    (∀ (key : PublicKey) (a : Algorithm) (text : String) (x : Json),
      SignedToken.payload? key a text = some x → x.Unambiguous) ∧
    (∀ x : Json, x.Unambiguous →
      ((∃ c, ofJson x = .ok c) ↔ ∃ ms, x = .obj ms ∧ WellTyped ms)) ∧
    (∀ (ms : Members) (c : Claims), Json.Unambiguous (.obj ms) → ofJson (.obj ms) = .ok c →
      ((∃ s, c.toSubject = .ok s) ↔ ∃ id, ms.get? "sub" = some (.str id) ∧ id ≠ "") ∧
      ∀ s, c.toSubject = .ok s → s.Mirrors ms) ∧
    ∀ (keyText : List UInt8) (algorithms : List Algorithm) (check : ClaimCheck) (v : TokenVerifier)
      (now : Int64) (text : String) (s : Subject), TokenVerifier.Made keyText algorithms check v →
      TokenVerifier.Accepts v now text s →
      ∃ ms, TokenVerifier.Signed v text (.obj ms) ∧ s.Mirrors ms := by
  refine ⟨fun _ _ => Json.unambiguous_of_decodeChars, fun _ _ _ _ =>
    SignedToken.unambiguous_of_payload?, fun x hx => ?_, fun ms c hms hc => ?_,
    fun _ _ _ _ _ _ _ => mirrors_of_accepts⟩
  · constructor
    · rintro ⟨c, hc⟩
      obtain ⟨ms, rfl⟩ := exists_obj_of_ofJson hc
      exact ⟨ms, rfl, exists_says_iff.mp ⟨c, (ofJson_obj_eq_ok hx).mp hc⟩⟩
    · rintro ⟨ms, rfl, htyped⟩
      obtain ⟨c, hc⟩ := exists_says_iff.mpr htyped
      exact ⟨c, (ofJson_obj_eq_ok hx).mpr hc⟩
  · have hclaims := (ofJson_obj_eq_ok hms).mp hc
    exact ⟨hclaims.exists_subject_iff, fun s hs => hclaims.mirrors hs⟩

/-- Members with a flag of administrators that is not literally true. -/
def sampleMembers : Members :=
  [("sub", .str "ada"), ("aud", .arr [.str "access"]), ("exp", .null), ("admin", .str "yes"),
    ("beta", .bool true), ("team", .obj [("lead", .bool true)])]

/-- These members are claims of a caller who is no administrator, with attributes for what has no
meaning; an expiry that is a text would spoil them. -/
theorem payload_reaches_policies_sample :
    (∃ c s, ofJson (.obj sampleMembers) = .ok c ∧ c.toSubject = .ok s ∧ s.id = "ada" ∧
      s.admin = false ∧ s.attribute? "team" = some (.obj [("lead", .bool true)]) ∧
      s.attribute? "exp" = none ∧ s.flag "beta" = true) ∧
    ¬∃ c, ofJson (.obj [("exp", .str "soon")]) = .ok c := by
  obtain ⟨-, -, hdecodes, hnames, -⟩ := payload_reaches_policies
  have hms : Json.Unambiguous (.obj sampleMembers) := by
    simp [sampleMembers, Json.Unambiguous, Json.UnambiguousMembers, Json.UnambiguousItems]
  have htyped : WellTyped sampleMembers := by
    refine ⟨?_, ?_, ?_⟩
    · simp [sampleMembers, Members.get?]
    · simp [sampleMembers, Members.get?]
    · rintro x ⟨⟩
      exact .inr (.inr ⟨["access"], rfl⟩)
  constructor
  · obtain ⟨c, hc⟩ := (hdecodes _ hms).mpr ⟨_, rfl, htyped⟩
    obtain ⟨hcaller, hmirrors⟩ := hnames _ c hms hc
    obtain ⟨s, hs⟩ := hcaller.mpr ⟨"ada", rfl, by decide⟩
    obtain ⟨hid, hadmin, hkept, hleft, hflag⟩ := hmirrors s hs
    refine ⟨c, s, hc, hs, ?_, ?_, ?_, ?_, ?_⟩
    · exact (Json.str.inj (Option.some.inj hid)).symm
    · rw [← Bool.not_eq_true, hadmin]
      simp [sampleMembers, Members.get?]
    · exact hkept _ (by decide)
    · exact hleft _ (by decide)
    · exact (hflag _).mpr (hkept _ (by decide))
  · intro hread
    have hexp : Json.Unambiguous (.obj [("exp", .str "soon")]) := by
      simp [Json.Unambiguous, Json.UnambiguousMembers]
    obtain ⟨ms, hms, htyped⟩ := (hdecodes _ hexp).mp hread
    cases hms
    rcases htyped.times "exp" (by decide) _ rfl with hnull | ⟨i, hi, -⟩
    · cases hnull
    · cases hi

end Claims

end Gatehouse
