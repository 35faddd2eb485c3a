import Gatehouse.Proofs.Auth.Bearer

/-!
# What a verifier of signed tokens answers

A credential that is absent or blank stands for nobody. Any other one is a token, which passes six
steps in order, and the verifier answers with the subject of its claims if it passes them all, and
with the reason of the first step that fails if not. There is no third way, and no failure that says
anything about the verifier itself. How a header is read and a signature is checked does not matter
to this; it holds of a verifier however it was made.

The vocabulary is `Signed` and `Bears`, what a token says under a right signature, `Accepts` and
`Rejects`, the two outcomes, and `Made`, a verifier that was made from the text of a key.
-/

namespace Gatehouse

namespace TokenVerifier

variable {v : TokenVerifier} {now : Int64} {text : String} {s : Subject} {c : Claims}
  {why : ClaimsError}

/-! ## Outcomes -/

/-- The header of a token names an accepted algorithm, under which the signature is right, and this
is the payload that it covers. -/
inductive Signed (v : TokenVerifier) (text : String) (payload : Json) : Prop where
  | intro {a : Algorithm} (header : SignedToken.algorithm? text = some a) (accepted : a ∈ v.algorithms)
    (signature : v.payload? a text = some payload)

/-- A signed token bears these claims. -/
inductive Bears (v : TokenVerifier) (text : String) (c : Claims) : Prop where
  | intro {payload : Json} (signed : Signed v text payload)
    (decoded : Claims.ofJson payload = .ok c)

/-- A token passes all steps, and this is the subject of its claims. -/
inductive Accepts (v : TokenVerifier) (now : Int64) (text : String) : Subject → Prop where
  | intro {c : Claims} {id : String} (bears : Bears v text c) (checked : v.check.check c now = .ok ())
    (named : c.subject = some id) (nonempty : id ≠ "") : Accepts v now text ⟨id, c.admin, c.extras⟩

/-- A token passes all steps up to one, and this is the reason why it fails there. -/
inductive Rejects (v : TokenVerifier) (now : Int64) (text : String) : ClaimsError → Prop where
  | header (unreadable : SignedToken.algorithm? text = none) :
    Rejects v now text (.decodeFailed "Invalid JWT header")
  | algorithm {a : Algorithm} (header : SignedToken.algorithm? text = some a)
    (refused : a ∉ v.algorithms) : Rejects v now text (.algorithmNotAllowed a.name)
  | signature {a : Algorithm} (header : SignedToken.algorithm? text = some a)
    (accepted : a ∈ v.algorithms) (wrong : v.payload? a text = none) :
    Rejects v now text (.decodeFailed "JWT validation failed")
  | payload {payload : Json} {fault : Json.Fault} (signed : Signed v text payload)
    (undecoded : Claims.ofJson payload = .error fault) :
    Rejects v now text (.malformed fault.message)
  | check {c : Claims} {why : ClaimsError} (bears : Bears v text c)
    (failed : v.check.check c now = .error why) : Rejects v now text why
  | subject {c : Claims} (bears : Bears v text c) (checked : v.check.check c now = .ok ())
    (unnamed : ∀ id, c.subject = some id → id = "") : Rejects v now text (.missingClaim "sub")

/-! ## Steps -/

/-- Up to the claims the steps have gone well for a token that bears them. -/
theorem subjectOf_of_bears (h : Bears v text c) :
    v.subjectOf now ⟨text⟩ = (v.check.check c now >>= fun _ => c.toSubject) := by
  obtain ⟨⟨header, accepted, signature⟩, decoded⟩ := h
  simp [subjectOf, header, accepted, signature, decoded, Except.mapError, Bind.bind, Except.bind]

theorem toSubject_of_named {id : String} (h : c.subject = some id) (hid : id ≠ "") :
    c.toSubject = .ok ⟨id, c.admin, c.extras⟩ := by
  have hnonempty : id.isEmpty = false := by simpa using hid
  simp [Claims.toSubject, h, hnonempty]

theorem toSubject_of_unnamed (h : ∀ id, c.subject = some id → id = "") :
    c.toSubject = .error (.missingClaim "sub") := by
  cases hc : c.subject with
  | none => simp [Claims.toSubject, hc]
  | some id =>
    have hid : id = "" := h id hc
    simp [Claims.toSubject, hc, hid]

theorem Accepts.subjectOf_eq (h : Accepts v now text s) : v.subjectOf now ⟨text⟩ = .ok s := by
  obtain ⟨bears, checked, named, nonempty⟩ := h
  rw [subjectOf_of_bears bears, checked]
  exact toSubject_of_named named nonempty

theorem Rejects.subjectOf_eq (h : Rejects v now text why) :
    v.subjectOf now ⟨text⟩ = .error why := by
  cases h with
  | header unreadable => simp [subjectOf, unreadable]
  | algorithm header refused => simp [subjectOf, header, refused, Bind.bind, Except.bind]
  | signature header accepted wrong => simp [subjectOf, header, accepted, wrong]
  | payload signed undecoded =>
    obtain ⟨header, accepted, signature⟩ := signed
    simp [subjectOf, header, accepted, signature, undecoded, Except.mapError, Bind.bind, Except.bind]
  | check bears failed =>
    rw [subjectOf_of_bears bears, failed]
    rfl
  | subject bears checked unnamed =>
    rw [subjectOf_of_bears bears, checked]
    exact toSubject_of_unnamed unnamed

/-- A token passes all steps, or there is a first one that fails. -/
theorem accepts_or_rejects (v : TokenVerifier) (now : Int64) (text : String) :
    (∃ s, Accepts v now text s) ∨ ∃ why, Rejects v now text why := by
  cases header : SignedToken.algorithm? text with
  | none => exact .inr ⟨_, .header header⟩
  | some a =>
    by_cases accepted : a ∈ v.algorithms
    · cases signature : v.payload? a text with
      | none => exact .inr ⟨_, .signature header accepted signature⟩
      | some payload =>
        have signed : Signed v text payload := ⟨header, accepted, signature⟩
        cases decoded : Claims.ofJson payload with
        | error fault => exact .inr ⟨_, .payload signed decoded⟩
        | ok c =>
          have bears : Bears v text c := ⟨signed, decoded⟩
          cases checked : v.check.check c now with
          | error why => exact .inr ⟨why, .check bears checked⟩
          | ok u =>
            by_cases named : ∃ id, c.subject = some id ∧ id ≠ ""
            · obtain ⟨id, named, nonempty⟩ := named
              exact .inl ⟨_, .intro bears checked named nonempty⟩
            · refine .inr ⟨_, .subject bears checked fun id hid => ?_⟩
              by_contra nonempty
              exact named ⟨id, hid, nonempty⟩
    · exact .inr ⟨_, .algorithm header accepted⟩

theorem subjectOf_eq_ok_iff : v.subjectOf now ⟨text⟩ = .ok s ↔ Accepts v now text s := by
  refine ⟨fun h => ?_, Accepts.subjectOf_eq⟩
  rcases accepts_or_rejects v now text with ⟨s', haccepts⟩ | ⟨why, hrejects⟩
  · cases h.symm.trans haccepts.subjectOf_eq
    exact haccepts
  · cases h.symm.trans hrejects.subjectOf_eq

theorem subjectOf_eq_error_iff : v.subjectOf now ⟨text⟩ = .error why ↔ Rejects v now text why := by
  refine ⟨fun h => ?_, Rejects.subjectOf_eq⟩
  rcases accepts_or_rejects v now text with ⟨s, haccepts⟩ | ⟨why', hrejects⟩
  · cases h.symm.trans haccepts.subjectOf_eq
  · cases h.symm.trans hrejects.subjectOf_eq
    exact hrejects

/-! ## Verifiers that are made -/

/-- A verifier that was made from the text of a key, by hand or from settings. -/
inductive Made (keyText : List UInt8) (algorithms : List Algorithm) (check : ClaimCheck)
    (v : TokenVerifier) : Prop where
  | of (made : TokenVerifier.of keyText algorithms check = .ok v)
  | ofSettings {settings : AuthSettings} {files : AuthSettings.Files}
    (made : TokenVerifier.ofSettings settings files = .ok v)
    (key : settings.keyBytes files = .ok keyText) (accepted : settings.algorithms = algorithms)
    (demands : settings.claimCheck = check)

theorem eq_of_of {keyText : List UInt8} {algorithms : List Algorithm} {check : ClaimCheck}
    (h : TokenVerifier.of keyText algorithms check = .ok v) : ∃ family key,
      familyOf algorithms = .ok family ∧ PublicKey.read? family keyText = some key ∧
        v = ⟨algorithms, check, SignedToken.payload? key⟩ := by
  cases hfamily : familyOf algorithms with
  | error e => simp [TokenVerifier.of, hfamily, Bind.bind, Except.bind] at h
  | ok family =>
    cases hkey : PublicKey.read? family keyText with
    | none => simp [TokenVerifier.of, hfamily, hkey, Bind.bind, Except.bind] at h
    | some key =>
      simp only [TokenVerifier.of, hfamily, hkey, Bind.bind, Except.bind, Except.ok.injEq] at h
      exact ⟨family, key, rfl, hkey, h.symm⟩

/-- Settings make the verifier that their key, algorithms and demands make. -/
theorem Made.eq {keyText : List UInt8} {algorithms : List Algorithm} {check : ClaimCheck}
    (h : Made keyText algorithms check v) : ∃ family key,
      familyOf algorithms = .ok family ∧ PublicKey.read? family keyText = some key ∧
        v = ⟨algorithms, check, SignedToken.payload? key⟩ := by
  cases h with
  | of made => exact eq_of_of made
  | ofSettings made key accepted demands =>
    subst accepted demands
    rw [TokenVerifier.ofSettings, key] at made
    exact eq_of_of made

/-! ## The headline -/

/-- **Verified or rejected for the first reason.** A verifier made from the text of a key, at any
moment and for any raw credential: it answers with nobody exactly if the credential is absent or
blank, with a subject exactly if the token passes all steps with this subject, and with a failure
exactly if a step fails, which is then a bad token for the reason of the first such step. -/
theorem verify_decides {keyText : List UInt8} {algorithms : List Algorithm} {check : ClaimCheck}
    (h : Made keyText algorithms check v) : ∃ family key,
      familyOf algorithms = .ok family ∧ PublicKey.read? family keyText = some key ∧
      v = ⟨algorithms, check, SignedToken.payload? key⟩ ∧ ∀ now raw,
        ((v.verify now raw).1 = .ok none ↔ ∀ text, raw = some text → Text.Blank text) ∧
        (∀ s, (v.verify now raw).1 = .ok (some s) ↔ ∃ text, raw = some text ∧ ¬Text.Blank text ∧
          Accepts v now (Text.trim text) s) ∧
        ∀ e, (v.verify now raw).1 = .error e ↔ ∃ text why, raw = some text ∧ ¬Text.Blank text ∧
          Rejects v now (Text.trim text) why ∧ e = .invalidToken why := by
  obtain ⟨family, key, hfamily, hkey, hv⟩ := h.eq
  refine ⟨family, key, hfamily, hkey, hv, fun now raw => ?_⟩
  -- A raw credential is a token, or there is none.
  by_cases hnone : ∀ text, raw = some text → Text.Blank text
  · have hverify : (v.verify now raw).1 = .ok none := by
      rw [verify, Token.parse?_eq_none_iff.mpr hnone]
    rw [hverify]
    refine ⟨by simpa using hnone, fun s => ?_, fun e => ?_⟩
    · refine ⟨fun hs => by simp at hs, ?_⟩
      rintro ⟨text, hraw, hpresent, -⟩
      exact absurd (hnone text hraw) hpresent
    · refine ⟨fun he => by simp at he, ?_⟩
      rintro ⟨text, why, hraw, hpresent, -⟩
      exact absurd (hnone text hraw) hpresent
  · obtain ⟨text, rfl, hpresent⟩ : ∃ text, raw = some text ∧ ¬Text.Blank text := by
      simpa using hnone
    have hverify : (v.verify now (some text)).1 =
        ((v.subjectOf now ⟨Text.trim text⟩).map some).mapError .invalidToken := by
      rw [verify, Token.parse?_of_not_blank hpresent]
    rw [hverify]
    cases hsubject : v.subjectOf now ⟨Text.trim text⟩ with
    | ok s =>
      refine ⟨by simpa [Except.map, Except.mapError] using hpresent, fun s' => ?_, fun e => ?_⟩
      · simp [Except.map, Except.mapError, hpresent, ← subjectOf_eq_ok_iff, hsubject]
      · simp [Except.map, Except.mapError, hpresent, ← subjectOf_eq_error_iff, hsubject]
    | error why =>
      refine ⟨by simpa [Except.map, Except.mapError] using hpresent, fun s' => ?_, fun e => ?_⟩
      · simp [Except.map, Except.mapError, hpresent, ← subjectOf_eq_ok_iff, hsubject]
      · simp [Except.map, Except.mapError, hpresent, ← subjectOf_eq_error_iff, hsubject, eq_comm]

/-- The text of a small key. -/
def sampleKeyText : List UInt8 := ("-----BEGIN PUBLIC KEY-----\n" ++
  "MFowDQYJKoZIhvcNAQEBBQADSQAwRgJBAMODWOLonKuqVn/eVbdHHiRawehUTWDb\n" ++
  "pgl0hwZftGQGkbktWpc1OjNvpTUGvA/OZcFdsGRU+rd5fo7MM5DQGYkCAQM=\n" ++
  "-----END PUBLIC KEY-----\n").toUTF8.toList

/-- A token that is signed with the small key. It says `{"sub":"ada","aud":"access"}`. -/
def sampleToken : String := "eyJhbGciOiJSUzI1NiJ9.eyJzdWIiOiJhZGEiLCJhdWQiOiJhY2Nlc3MifQ." ++
  "kgZvrfzooMUagpQn5lfuwBV94BL_IUMWQfW_Ql7a5QLmYPYKZcFgG-BQ6kGE1fs_Go-zQyukHwgf1JcHJJnrUg"

/-- What the verifier with the small key demands. -/
def sampleCheck : ClaimCheck := ⟨"access", 60, false⟩

/-- The small key makes a verifier. It takes blank text for nobody, the token for the caller that it
names, and any other text for a bad token. -/
theorem verify_decides_sample : ∃ v,
    TokenVerifier.of sampleKeyText [.rsaPkcs1 .sha256] sampleCheck = .ok v ∧
    (v.verify 0 (some " \t")).1 = .ok none ∧
    (∃ s, s.id = "ada" ∧ (v.verify 0 (some sampleToken)).1 = .ok (some s)) ∧
    (v.verify 0 (some "ada")).1 = .error (.invalidToken (.decodeFailed "Invalid JWT header")) := by
  have hsample : ((PublicKey.read? .rsa sampleKeyText).any fun key =>
      (SignedToken.payload? key (.rsaPkcs1 .sha256) sampleToken).any fun payload =>
      (Claims.ofJson payload).toOption.any fun c =>
      (sampleCheck.check c 0).toOption.isSome && c.subject = some "ada") = true := by decide +kernel
  simp only [Option.any_eq_true, Bool.and_eq_true, decide_eq_true_eq] at hsample
  obtain ⟨key, hkey, payload, hpayload, c, hc, hchecked, hnamed⟩ := hsample
  have decoded : Claims.ofJson payload = .ok c := by
    cases h : Claims.ofJson payload with
    | error fault => simp [h, Except.toOption] at hc
    | ok c' => simpa [h, Except.toOption] using hc
  have checked : sampleCheck.check c 0 = .ok () := by
    cases h : sampleCheck.check c 0 with
    | error why => simp [h, Except.toOption] at hchecked
    | ok u => rfl
  have made : TokenVerifier.of sampleKeyText [.rsaPkcs1 .sha256] sampleCheck =
      .ok ⟨[.rsaPkcs1 .sha256], sampleCheck, SignedToken.payload? key⟩ := by
    simp [TokenVerifier.of, familyOf, Algorithm.family, hkey, Bind.bind, Except.bind]
  obtain ⟨-, -, -, -, -, hdecides⟩ := verify_decides (.of made)
  have htrim : Text.trim sampleToken = sampleToken := by decide +kernel
  have hheader : SignedToken.algorithm? sampleToken = some (.rsaPkcs1 .sha256) := by
    decide +kernel
  refine ⟨_, made, (hdecides 0 _).1.mpr fun text htext => ?_, ?_, ?_⟩
  · cases htext
    decide
  · have bears : Bears ⟨[.rsaPkcs1 .sha256], sampleCheck, SignedToken.payload? key⟩ sampleToken c :=
      ⟨⟨hheader, List.mem_singleton.mpr rfl, hpayload⟩, decoded⟩
    refine ⟨⟨"ada", c.admin, c.extras⟩, rfl, ((hdecides 0 _).2.1 _).mpr ⟨_, rfl, by decide +kernel, ?_⟩⟩
    rw [htrim]
    exact .intro bears checked hnamed (by decide)
  · exact ((hdecides 0 _).2.2 _).mpr ⟨_, _, rfl, by decide, .header (by decide +kernel), rfl⟩

end TokenVerifier

end Gatehouse
