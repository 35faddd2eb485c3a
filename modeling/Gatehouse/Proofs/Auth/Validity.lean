import Gatehouse.Proofs.Auth.Verification

/-!
# When claims are valid

The time limits of claims are compared with sums that stay within 64 bits. As long as the leeway is
not negative, which settings see to, the comparisons come out as if the sums were exact: a sum is cut
off only at an end of the range that no moment lies beyond. So the moments at which a token is
accepted have no gaps, and more leeway accepts more.

The vocabulary of the statement is `Meets`, what is demanded of claims in exact numbers, and
`withLeeway`, the same demands with another leeway.
-/

namespace Gatehouse

namespace ClaimCheck

variable {v : ClaimCheck} {c : Claims} {now : Int64}

/-! ## Sums that are cut off -/

theorem toInt_clamp (i : Int) :
    (clamp i).toInt = max Int64.minValue.toInt (min Int64.maxValue.toInt i) := by
  have hmin := Int64.toInt_minValue
  have hmax := Int64.toInt_maxValue
  unfold clamp
  split
  · omega
  · split
    · omega
    · rw [Int64.toInt_ofInt_of_le (by omega) (by omega)]
      omega

/-- A number that is not below the range compares from below as if it had not been cut off. -/
theorem clamp_lt_iff {i : Int} {x : Int64} (h : Int64.minValue.toInt ≤ i) :
    clamp i < x ↔ i < x.toInt := by
  have hx := x.toInt_le
  rw [Int64.lt_iff_toInt_lt, toInt_clamp]
  omega

/-- A number that is not above the range compares from above as if it had not been cut off. -/
theorem lt_clamp_iff {i : Int} {x : Int64} (h : i ≤ Int64.maxValue.toInt) :
    x < clamp i ↔ x.toInt < i := by
  have hx := x.minValue_le_toInt
  rw [Int64.lt_iff_toInt_lt, toInt_clamp]
  omega

/-! ## Demands -/

/-- What is demanded of claims at a moment, in exact numbers. -/
structure Meets (v : ClaimCheck) (c : Claims) (now : Int64) : Prop where
  audience : v.audience ∈ c.audiences
  expiry : (∃ e, c.expiry = some e ∧ now.toInt ≤ e.toInt + v.leeway.toInt) ∨
    (c.expiry = none ∧ v.requireExpiry = false)
  start : c.notBefore = none ∨ ∃ n, c.notBefore = some n ∧ n.toInt - v.leeway.toInt ≤ now.toInt

theorem checkAudience_eq_ok : v.checkAudience c = .ok () ↔ v.audience ∈ c.audiences := by
  simp [checkAudience]

theorem checkExpiry_eq_ok (hv : 0 ≤ v.leeway) : v.checkExpiry c now = .ok () ↔
    (∃ e, c.expiry = some e ∧ now.toInt ≤ e.toInt + v.leeway.toInt) ∨
      (c.expiry = none ∧ v.requireExpiry = false) := by
  rw [checkExpiry]
  cases hexpiry : c.expiry with
  | none => cases hrequire : v.requireExpiry <;> simp
  | some e =>
    have hleeway : 0 ≤ v.leeway.toInt := Int64.le_iff_toInt_le.mp hv
    have hsum : saturatingAdd e v.leeway < now ↔ e.toInt + v.leeway.toInt < now.toInt :=
      clamp_lt_iff (by have := e.minValue_le_toInt; omega)
    simp [hsum]

theorem checkStart_eq_ok (hv : 0 ≤ v.leeway) : v.checkStart c now = .ok () ↔
    c.notBefore = none ∨ ∃ n, c.notBefore = some n ∧ n.toInt - v.leeway.toInt ≤ now.toInt := by
  rw [checkStart]
  cases hstart : c.notBefore with
  | none => simp
  | some n =>
    have hleeway : 0 ≤ v.leeway.toInt := Int64.le_iff_toInt_le.mp hv
    have hdifference : now < saturatingSub n v.leeway ↔ now.toInt < n.toInt - v.leeway.toInt :=
      lt_clamp_iff (by have := n.toInt_le; omega)
    simp [hdifference]

/-- The checks pass exactly if the demands are met. -/
theorem check_eq_ok (hv : 0 ≤ v.leeway) : v.check c now = .ok () ↔ v.Meets c now := by
  have hsteps : v.check c now = .ok () ↔ v.checkAudience c = .ok () ∧
      v.checkExpiry c now = .ok () ∧ v.checkStart c now = .ok () := by
    rw [check]
    cases v.checkAudience c with
    | error why => simp [Bind.bind, Except.bind]
    | ok u => cases v.checkExpiry c now <;> simp [Bind.bind, Except.bind]
  rw [hsteps, checkAudience_eq_ok, checkExpiry_eq_ok hv, checkStart_eq_ok hv]
  exact ⟨fun ⟨haudience, hexpiry, hstart⟩ => ⟨haudience, hexpiry, hstart⟩,
    fun ⟨haudience, hexpiry, hstart⟩ => ⟨haudience, hexpiry, hstart⟩⟩

/-- Demands that are met at two moments are met between them. -/
theorem Meets.between {early late : Int64} (hearly : v.Meets c early) (hlate : v.Meets c late)
    (h : early ≤ now) (h' : now ≤ late) : v.Meets c now where
  audience := hearly.audience
  expiry := by
    have hnow := Int64.le_iff_toInt_le.mp h'
    exact hlate.expiry.imp_left fun ⟨e, he, hle⟩ => ⟨e, he, by omega⟩
  start := by
    have hnow := Int64.le_iff_toInt_le.mp h
    exact hearly.start.imp_right fun ⟨n, hn, hle⟩ => ⟨n, hn, by omega⟩

/-- The same demands with another leeway. -/
def withLeeway (v : ClaimCheck) (leeway : Int64) : ClaimCheck := { v with leeway }

@[simp] theorem leeway_withLeeway (v : ClaimCheck) (leeway : Int64) :
    (v.withLeeway leeway).leeway = leeway := rfl

/-- Demands that are met are met with more leeway. -/
theorem Meets.withLeeway {leeway : Int64} (h : v.Meets c now) (hle : v.leeway ≤ leeway) :
    (v.withLeeway leeway).Meets c now where
  audience := h.audience
  expiry := by
    have hmore := Int64.le_iff_toInt_le.mp hle
    rw [leeway_withLeeway]
    exact h.expiry.imp_left fun ⟨e, he, hnow⟩ => ⟨e, he, by omega⟩
  start := by
    have hmore := Int64.le_iff_toInt_le.mp hle
    rw [leeway_withLeeway]
    exact h.start.imp_right fun ⟨n, hn, hnow⟩ => ⟨n, hn, by omega⟩

end ClaimCheck

/-! ## Verifiers -/

theorem AuthSettings.leeway_of_keyBytes {s : AuthSettings} {files : AuthSettings.Files}
    {bytes : List UInt8} (h : s.keyBytes files = .ok bytes) : 0 ≤ s.leeway := by
  cases hvalid : s.validate with
  | error e => simp [keyBytes, hvalid, Bind.bind, Except.bind] at h
  | ok u =>
    unfold validate at hvalid
    split at hvalid
    · cases hvalid
    · cases hvalid
    · split at hvalid
      · cases hvalid
      · split at hvalid
        · cases hvalid
        · rename_i hleeway
          exact Int64.not_lt.mp hleeway

namespace TokenVerifier

variable {v : TokenVerifier} {now : Int64} {text : String} {s : Subject} {c : Claims}

/-- Settings that make a verifier allow no negative leeway. -/
theorem leeway_of_ofSettings {settings : AuthSettings} {files : AuthSettings.Files}
    (h : ofSettings settings files = .ok v) : 0 ≤ v.check.leeway := by
  rw [ofSettings] at h
  cases hkey : settings.keyBytes files with
  | error e => simp [hkey, Bind.bind, Except.bind] at h
  | ok bytes =>
    rw [hkey] at h
    obtain ⟨_, _, _, _, rfl⟩ := eq_of_of h
    exact AuthSettings.leeway_of_keyBytes hkey

/-- A token bears at most one set of claims. -/
theorem Bears.unique {d : Claims} (h : Bears v text c) (h' : Bears v text d) : c = d := by
  obtain ⟨⟨header, -, signature⟩, decoded⟩ := h
  obtain ⟨⟨header', -, signature'⟩, decoded'⟩ := h'
  cases header.symm.trans header'
  cases signature.symm.trans signature'
  cases decoded.symm.trans decoded'
  rfl

theorem accepts_iff : Accepts v now text s ↔
    ∃ c, Bears v text c ∧ v.check.check c now = .ok () ∧ c.toSubject = .ok s := by
  constructor
  · rintro ⟨bears, checked, named, nonempty⟩
    exact ⟨_, bears, checked, toSubject_of_named named nonempty⟩
  · rintro ⟨c, bears, checked, subject⟩
    apply subjectOf_eq_ok_iff.mp
    rw [subjectOf_of_bears bears, checked]
    exact subject

/-- A raw credential that stands for a caller is a token that is accepted. -/
theorem verify_eq_some_iff {raw : Option String} : (v.verify now raw).1 = .ok (some s) ↔
    ∃ token, Token.parse? raw = some token ∧ Accepts v now token.text s := by
  rw [verify]
  cases Token.parse? raw with
  | none => simp
  | some token =>
    cases hsubject : v.subjectOf now token with
    | ok s' => simp [Except.map, Except.mapError, ← subjectOf_eq_ok_iff, hsubject]
    | error why => simp [Except.map, Except.mapError, ← subjectOf_eq_ok_iff, hsubject]

/-- The same verifier with another leeway. -/
def withLeeway (v : TokenVerifier) (leeway : Int64) : TokenVerifier :=
  { v with check := v.check.withLeeway leeway }

theorem Bears.withLeeway (h : Bears v text c) (leeway : Int64) :
    Bears (v.withLeeway leeway) text c := by
  obtain ⟨⟨header, accepted, signature⟩, decoded⟩ := h
  exact ⟨⟨header, accepted, signature⟩, decoded⟩

theorem Accepts.between {early late : Int64} (hv : 0 ≤ v.check.leeway)
    (hearly : Accepts v early text s) (hlate : Accepts v late text s) (h : early ≤ now)
    (h' : now ≤ late) : Accepts v now text s := by
  obtain ⟨c, bears, checked, subject⟩ := accepts_iff.mp hearly
  obtain ⟨d, bears', checked', -⟩ := accepts_iff.mp hlate
  obtain rfl := bears.unique bears'
  rw [ClaimCheck.check_eq_ok hv] at checked checked'
  have hmeets := checked.between checked' h h'
  exact accepts_iff.mpr ⟨c, bears, (ClaimCheck.check_eq_ok hv).mpr hmeets, subject⟩

theorem Accepts.withLeeway {leeway : Int64} (hv : 0 ≤ v.check.leeway)
    (hle : v.check.leeway ≤ leeway) (h : Accepts v now text s) :
    Accepts (v.withLeeway leeway) now text s := by
  obtain ⟨c, bears, checked, subject⟩ := accepts_iff.mp h
  have hmeets := ((ClaimCheck.check_eq_ok hv).mp checked).withLeeway hle
  have hleeway : 0 ≤ (v.withLeeway leeway).check.leeway := Int64.le_trans hv hle
  exact accepts_iff.mpr ⟨c, bears.withLeeway leeway, (ClaimCheck.check_eq_ok hleeway).mpr hmeets,
    subject⟩

/-! ## The headline -/

/-- **Time limits are exact.** With a leeway that is not negative, which settings that make a
verifier never have, claims pass the checks exactly if they meet the demands in exact numbers, over
the whole range of 64 bits. So claims that pass at two moments pass between them, and with more
leeway too; and the same holds of what a verifier makes of a raw credential. -/
theorem time_limits_exact :
    (∀ (v : ClaimCheck) (c : Claims) (now : Int64), 0 ≤ v.leeway →
      (v.check c now = .ok () ↔ v.Meets c now)) ∧
    (∀ (settings : AuthSettings) (files : AuthSettings.Files) (v : TokenVerifier),
      ofSettings settings files = .ok v → 0 ≤ v.check.leeway) ∧
    (∀ (v : ClaimCheck) (c : Claims) (early now late : Int64), 0 ≤ v.leeway →
      early ≤ now → now ≤ late → v.check c early = .ok () → v.check c late = .ok () →
      v.check c now = .ok ()) ∧
    (∀ (v : ClaimCheck) (c : Claims) (now leeway : Int64), 0 ≤ v.leeway → v.leeway ≤ leeway →
      v.check c now = .ok () → (v.withLeeway leeway).check c now = .ok ()) ∧
    (∀ (v : TokenVerifier) (raw : Option String) (s : Subject) (early now late : Int64),
      0 ≤ v.check.leeway → early ≤ now → now ≤ late → (v.verify early raw).1 = .ok (some s) →
      (v.verify late raw).1 = .ok (some s) → (v.verify now raw).1 = .ok (some s)) ∧
    ∀ (v : TokenVerifier) (raw : Option String) (s : Subject) (now leeway : Int64),
      0 ≤ v.check.leeway → v.check.leeway ≤ leeway → (v.verify now raw).1 = .ok (some s) →
      ((v.withLeeway leeway).verify now raw).1 = .ok (some s) := by
  refine ⟨fun _ _ _ => ClaimCheck.check_eq_ok, fun _ _ _ => leeway_of_ofSettings, ?_, ?_, ?_, ?_⟩
  · intro v c early now late hv h h' hearly hlate
    rw [ClaimCheck.check_eq_ok hv] at hearly hlate ⊢
    exact hearly.between hlate h h'
  · intro v c now leeway hv hle hpass
    have hleeway : 0 ≤ (v.withLeeway leeway).leeway := Int64.le_trans hv hle
    rw [ClaimCheck.check_eq_ok hv] at hpass
    exact (ClaimCheck.check_eq_ok hleeway).mpr (hpass.withLeeway hle)
  · intro v raw s early now late hv h h' hearly hlate
    obtain ⟨token, htoken, haccepts⟩ := verify_eq_some_iff.mp hearly
    obtain ⟨token', htoken', haccepts'⟩ := verify_eq_some_iff.mp hlate
    cases htoken.symm.trans htoken'
    exact verify_eq_some_iff.mpr ⟨token, htoken, haccepts.between hv haccepts' h h'⟩
  · intro v raw s now leeway hv hle hpass
    obtain ⟨token, htoken, haccepts⟩ := verify_eq_some_iff.mp hpass
    exact verify_eq_some_iff.mpr ⟨token, htoken, haccepts.withLeeway hv hle⟩

/-- Settings that name a file for the key. -/
def sampleSettings : AuthSettings :=
  { AuthSettings.standard with keyPath := some "key.pem", algorithms := [.rsaPkcs1 .sha256] }

/-- Claims that expire at a moment and are valid from the first one on. -/
def claimsUntil (expiry : Int64) : Claims :=
  ⟨some "ada", ["access"], some expiry, some .minValue, none, none, false, []⟩

/-- A verifier that was made from settings takes claims that end with the range for valid at both
ends and so always, and other claims up to the last second of its leeway of a minute. -/
theorem time_limits_exact_ends : ∃ v,
    ofSettings sampleSettings (fun _ => .ok sampleKeyText) = .ok v ∧
    (∀ now, v.check.check (claimsUntil .maxValue) now = .ok ()) ∧
    v.check.check (claimsUntil 0) 60 = .ok () ∧ v.check.check (claimsUntil 0) 61 ≠ .ok () ∧
    (v.check.withLeeway 61).check (claimsUntil 0) 60 = .ok () := by
  obtain ⟨hexact, hsettings, hbetween, hmore, -, -⟩ := time_limits_exact
  have hread : (PublicKey.read? .rsa sampleKeyText).isSome = true := by decide +kernel
  obtain ⟨key, hkey⟩ := Option.isSome_iff_exists.mp hread
  have hmade : ofSettings sampleSettings (fun _ => .ok sampleKeyText) =
      .ok ⟨[.rsaPkcs1 .sha256], sampleCheck, SignedToken.payload? key⟩ := by
    show TokenVerifier.of sampleKeyText [.rsaPkcs1 .sha256] sampleCheck = _
    simp [TokenVerifier.of, familyOf, Algorithm.family, hkey, Bind.bind, Except.bind]
  have hv : 0 ≤ sampleCheck.leeway := hsettings _ _ _ hmade
  have hfirst : sampleCheck.check (claimsUntil .maxValue) .minValue = .ok () :=
    (hexact _ _ _ hv).mpr ⟨by decide, .inl ⟨_, rfl, by decide⟩, .inr ⟨_, rfl, by decide⟩⟩
  have hlast : sampleCheck.check (claimsUntil .maxValue) .maxValue = .ok () :=
    (hexact _ _ _ hv).mpr ⟨by decide, .inl ⟨_, rfl, by decide⟩, .inr ⟨_, rfl, by decide⟩⟩
  have hminute : sampleCheck.check (claimsUntil 0) 60 = .ok () :=
    (hexact _ _ _ hv).mpr ⟨by decide, .inl ⟨_, rfl, by decide⟩, .inr ⟨_, rfl, by decide⟩⟩
  have hover : sampleCheck.check (claimsUntil 0) 61 ≠ .ok () := by
    intro hpass
    obtain ⟨-, ⟨e, he, hlate⟩ | ⟨hnone, -⟩, -⟩ := (hexact _ _ _ hv).mp hpass
    · cases he
      exact absurd hlate (by decide)
    · cases hnone
  have hlenient : (sampleCheck.withLeeway 61).check (claimsUntil 0) 60 = .ok () :=
    hmore _ _ _ _ hv (by decide) hminute
  refine ⟨_, hmade, fun now => ?_, hminute, hover, hlenient⟩
  have hnow : Int64.minValue ≤ now ∧ now ≤ Int64.maxValue :=
    ⟨Int64.le_iff_toInt_le.mpr now.minValue_le_toInt, Int64.le_iff_toInt_le.mpr now.toInt_le⟩
  exact hbetween _ _ _ now _ hv hnow.1 hnow.2 hfirst hlast

end TokenVerifier

end Gatehouse
