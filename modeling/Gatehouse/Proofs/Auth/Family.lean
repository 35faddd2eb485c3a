import Gatehouse.Proofs.Auth.Validity

/-!
# Algorithms and keys of one family

A verifier is made only for algorithms of one family, none of which is symmetric, and only from a
key of that family. From then on the algorithm that a token names is one of these or the token is
bad, and its signature is checked under no other. So nobody can have a public key taken for a shared
secret.

The vocabulary of the statement is `OneFamily`, a list of algorithms that a verifier may have,
`Unmade`, the reasons why no verifier is made, and `Checked`, a token whose signature is right.
-/

namespace Gatehouse

/-! ## Keys -/

theorem PublicKey.family_of_ofArmoured? {family : KeyFamily} {armoured : Crypto.Armoured}
    {key : PublicKey} (h : ofArmoured? family armoured = some key) : key.family = family := by
  obtain ⟨items, -, h⟩ := Option.bind_eq_some_iff.mp h
  split at h
  · split at h
    · cases h
      rfl
    · cases h
  · split at h
    · obtain ⟨named, -, h⟩ := Option.bind_eq_some_iff.mp h
      split at h
      · obtain ⟨content, -, h⟩ := Option.bind_eq_some_iff.mp h
        cases h
        rfl
      · cases h
    · cases h

/-- A key is read for the family that is asked for. -/
theorem PublicKey.family_of_read? {family : KeyFamily} {text : List UInt8} {key : PublicKey}
    (h : read? family text = some key) : key.family = family := by
  obtain ⟨armoured, -, h⟩ := Option.bind_eq_some_iff.mp h
  exact family_of_ofArmoured? h

namespace TokenVerifier

variable {algorithms : List Algorithm} {family : KeyFamily} {keyText : List UInt8}
  {check : ClaimCheck} {v : TokenVerifier}

/-! ## Making a verifier -/

/-- There are algorithms, all of this family, and the family is not the symmetric one. -/
structure OneFamily (algorithms : List Algorithm) (family : KeyFamily) : Prop where
  nonempty : algorithms ≠ []
  same : ∀ a ∈ algorithms, a.family = family
  asymmetric : family ≠ .symmetric

/-- Why no verifier is made. No two of the reasons apply together: each is the first to be found. -/
inductive Unmade (keyText : List UInt8) (algorithms : List Algorithm) : String → Prop where
  | empty (none : algorithms = []) : Unmade keyText algorithms "algorithms must not be empty"
  | mixed {a b : Algorithm} (left : a ∈ algorithms) (right : b ∈ algorithms)
    (different : a.family ≠ b.family) :
    Unmade keyText algorithms "algorithms must all use the same key family"
  | symmetric (nonempty : algorithms ≠ []) (all : ∀ a ∈ algorithms, a.family = .symmetric) :
    Unmade keyText algorithms
      "symmetric algorithms are not supported; configure a public key algorithm"
  | key {family : KeyFamily} (algorithms_of : OneFamily algorithms family)
    (unreadable : PublicKey.read? family keyText = none) :
    Unmade keyText algorithms "invalid public key"

/-- No algorithm of one family that a verifier may have is symmetric. -/
theorem OneFamily.hmac_not_mem (h : OneFamily algorithms family) (hash : HashName) :
    Algorithm.hmac hash ∉ algorithms := by
  intro hmem
  apply h.asymmetric
  exact (h.same _ hmem).symm

theorem familyOf_eq_ok_iff : familyOf algorithms = .ok family ↔ OneFamily algorithms family := by
  cases algorithms with
  | nil =>
    constructor
    · intro h
      cases h
    · intro h
      exact absurd rfl h.nonempty
  | cons first rest =>
    rw [familyOf]
    constructor
    · intro h
      split at h
      case isTrue => cases h
      case isFalse hsame =>
        split at h
        case isTrue => cases h
        case isFalse hasymmetric =>
          cases h
          refine ⟨List.cons_ne_nil _ _, ?_, hasymmetric⟩
          simpa using hsame
    · intro h
      obtain ⟨hfirst, hrest⟩ := List.forall_mem_cons.mp h.same
      have hsame : ¬(rest.any fun a => a.family ≠ first.family) = true := by
        simpa [hfirst] using hrest
      rw [if_neg hsame, hfirst, if_neg h.asymmetric]

/-- With algorithms of one family all that can fail is the reading of the key. -/
theorem of_eq (h : OneFamily algorithms family) :
    TokenVerifier.of keyText algorithms check =
      match PublicKey.read? family keyText with
      | some key => .ok ⟨algorithms, check, SignedToken.payload? key⟩
      | none => .error (.settings "invalid public key") := by
  rw [TokenVerifier.of, familyOf_eq_ok_iff.mpr h]
  rfl

/-- No verifier is made for the reason that applies. -/
theorem Unmade.of_eq {reason : String} (h : Unmade keyText algorithms reason) :
    TokenVerifier.of keyText algorithms check = .error (.settings reason) := by
  cases h with
  | empty none =>
    rw [none]
    rfl
  | @mixed a b left right different =>
    cases algorithms with
    | nil => cases left
    | cons first rest =>
      have hany : (rest.any fun c => c.family ≠ first.family) = true := by
        by_contra hsame
        have hfirst : ∀ c ∈ first :: rest, c.family = first.family := by
          simpa using hsame
        exact different ((hfirst a left).trans (hfirst b right).symm)
      rw [TokenVerifier.of, familyOf, if_pos hany]
      rfl
  | symmetric nonempty all =>
    cases algorithms with
    | nil => exact absurd rfl nonempty
    | cons first rest =>
      obtain ⟨hfirst, hrest⟩ := List.forall_mem_cons.mp all
      have hall : ¬(rest.any fun a => a.family ≠ first.family) = true := by
        simpa [hfirst] using hrest
      rw [TokenVerifier.of, familyOf, if_neg hall, if_pos hfirst]
      rfl
  | key algorithms_of unreadable =>
    rw [TokenVerifier.of_eq algorithms_of, unreadable]

/-- Algorithms are of one family that a verifier may have, or there is a reason against them. -/
theorem oneFamily_or_unmade (keyText : List UInt8) (algorithms : List Algorithm) :
    (∃ family, OneFamily algorithms family) ∨ ∃ reason, Unmade keyText algorithms reason := by
  cases algorithms with
  | nil => exact .inr ⟨_, .empty rfl⟩
  | cons first rest =>
    by_cases hsame : ∀ a ∈ first :: rest, a.family = first.family
    · by_cases hfirst : first.family = .symmetric
      · refine .inr ⟨_, .symmetric (List.cons_ne_nil _ _) ?_⟩
        intro a ha
        rw [hsame a ha, hfirst]
      · exact .inl ⟨first.family, List.cons_ne_nil _ _, hsame, hfirst⟩
    · push Not at hsame
      obtain ⟨a, ha, hdiffers⟩ := hsame
      exact .inr ⟨_, .mixed ha List.mem_cons_self hdiffers⟩

theorem of_eq_error_iff {e : AuthError} : TokenVerifier.of keyText algorithms check = .error e ↔
    ∃ reason, Unmade keyText algorithms reason ∧ e = .settings reason := by
  constructor
  · intro h
    rcases oneFamily_or_unmade keyText algorithms with ⟨family, hfamily⟩ | ⟨reason, hreason⟩
    · rw [of_eq hfamily] at h
      cases hkey : PublicKey.read? family keyText with
      | none =>
        rw [hkey] at h
        cases h
        exact ⟨_, .key hfamily hkey, rfl⟩
      | some key =>
        rw [hkey] at h
        cases h
    · rw [hreason.of_eq] at h
      cases h
      exact ⟨reason, hreason, rfl⟩
  · intro h
    obtain ⟨reason, hreason, rfl⟩ := h
    exact hreason.of_eq

/-- A verifier is made from algorithms of one family and a key of that family. -/
theorem Made.oneFamily (h : Made keyText algorithms check v) : ∃ family key,
    OneFamily algorithms family ∧ PublicKey.read? family keyText = some key ∧
      key.family = family ∧ v = ⟨algorithms, check, SignedToken.payload? key⟩ := by
  obtain ⟨family, key, hfamily, hkey, hv⟩ := h.eq
  exact ⟨family, key, familyOf_eq_ok_iff.mp hfamily, hkey, PublicKey.family_of_read? hkey, hv⟩

/-! ## Verifying tokens -/

/-- The header of a token names this algorithm, and its signature under the algorithm is right. -/
inductive Checked (key : PublicKey) (a : Algorithm) (text : String) : Prop where
  | intro {parts : SignedToken.Parts} {signature : List UInt8}
    (header : SignedToken.algorithm? text = some a)
    (parts_of : SignedToken.Parts.of? text = some parts)
    (decoded : Text.Base64.compact.decode? parts.signature = some signature)
    (verified : key.verifies a parts.signed signature = true)

/-- A payload is taken only from a token with the right signature. -/
theorem checked_of_payload? {key : PublicKey} {a : Algorithm} {text : String} {payload : Json}
    (header : SignedToken.algorithm? text = some a)
    (h : SignedToken.payload? key a text = some payload) : Checked key a text := by
  obtain ⟨parts, hparts, h⟩ := Option.bind_eq_some_iff.mp h
  obtain ⟨signature, hsignature, h⟩ := Option.bind_eq_some_iff.mp h
  split at h
  case isTrue hverified => exact ⟨header, hparts, hsignature, hverified⟩
  case isFalse => cases h

/-- A caller is found only for a token that names an accepted algorithm and is signed under it. -/
theorem checked_of_verify {key : PublicKey} {now : Int64} {raw : Option String} {s : Subject}
    (h : (verify ⟨algorithms, check, SignedToken.payload? key⟩ now raw).1 = .ok (some s)) :
    ∃ token a, Token.parse? raw = some token ∧ a ∈ algorithms ∧ Checked key a token.text := by
  obtain ⟨token, htoken, haccepts⟩ := verify_eq_some_iff.mp h
  obtain ⟨⟨⟨header, accepted, signature⟩, -⟩, -, -, -⟩ := haccepts
  exact ⟨token, _, htoken, accepted, checked_of_payload? header signature⟩

/-- A token that names another algorithm is bad for that reason, whatever else it says. -/
theorem verify_of_foreign {now : Int64} {raw : Option String} {token : Token} {a : Algorithm}
    (htoken : Token.parse? raw = some token) (header : SignedToken.algorithm? token.text = some a)
    (refused : a ∉ v.algorithms) :
    (v.verify now raw).1 = .error (.invalidToken (.algorithmNotAllowed a.name)) := by
  have hrejects : v.subjectOf now token = .error (.algorithmNotAllowed a.name) :=
    (Rejects.algorithm header refused).subjectOf_eq
  rw [verify, htoken]
  show ((v.subjectOf now token).map some).mapError AuthError.invalidToken = _
  rw [hrejects]
  rfl

/-! ## The headline -/

/-- **Algorithms are never confused.** A verifier that is made, by hand or from settings, has the
algorithms it was made with: one at least, all of one family, none symmetric, and its key is the key
of this family in the text. Whenever it finds a caller, the token names one of these algorithms,
which is of the key's family, and is signed under it with this key. A token that names any other
algorithm, so each symmetric one, is bad for that reason, whatever its signature and its claims are.
And no verifier is made exactly for the first of four reasons: no algorithm, algorithms of two
families, symmetric algorithms, no key of the family in the text. -/
theorem algorithms_never_confused :
    (∀ (keyText : List UInt8) (algorithms : List Algorithm) (check : ClaimCheck)
        (v : TokenVerifier),
      Made keyText algorithms check v → v.algorithms = algorithms ∧
      ∃ family key, OneFamily algorithms family ∧ (∀ hash, Algorithm.hmac hash ∉ algorithms) ∧
        PublicKey.read? family keyText = some key ∧ key.family = family ∧
        (∀ now raw s, (v.verify now raw).1 = .ok (some s) → ∃ token a,
          Token.parse? raw = some token ∧ a ∈ algorithms ∧ a.family = family ∧
            Checked key a token.text) ∧
        (∀ now raw token a, Token.parse? raw = some token →
          SignedToken.algorithm? token.text = some a → a ∉ algorithms →
          (v.verify now raw).1 = .error (.invalidToken (.algorithmNotAllowed a.name))) ∧
        ∀ now raw token hash, Token.parse? raw = some token →
          SignedToken.algorithm? token.text = some (.hmac hash) →
          (v.verify now raw).1 =
            .error (.invalidToken (.algorithmNotAllowed (Algorithm.hmac hash).name))) ∧
    ∀ (keyText : List UInt8) (algorithms : List Algorithm) (check : ClaimCheck) (e : AuthError),
      TokenVerifier.of keyText algorithms check = .error e ↔
        ∃ reason, Unmade keyText algorithms reason ∧ e = .settings reason := by
  refine ⟨?_, fun _ _ _ _ => of_eq_error_iff⟩
  intro keyText algorithms check v hmade
  obtain ⟨family, key, hone, hkey, hfamily, rfl⟩ := hmade.oneFamily
  have hforeign := @verify_of_foreign ⟨algorithms, check, SignedToken.payload? key⟩
  refine ⟨rfl, family, key, hone, hone.hmac_not_mem, hkey, hfamily, ?_, ?_, ?_⟩
  · intro now raw s h
    obtain ⟨token, a, htoken, accepted, hchecked⟩ := checked_of_verify h
    exact ⟨token, a, htoken, accepted, hone.same a accepted, hchecked⟩
  · intro now raw token a htoken header refused
    exact hforeign htoken header refused
  · intro now raw token hash htoken header
    exact hforeign htoken header (hone.hmac_not_mem hash)

/-- A token that names a symmetric algorithm. Its header says `{"alg":"HS256"}`, its payload is that
of the sample token, and its signature is one byte. -/
def forgedToken : String := "eyJhbGciOiJIUzI1NiJ9.eyJzdWIiOiJhZGEiLCJhdWQiOiJhY2Nlc3MifQ.AA"

/-- A verifier with an RSA key refuses the forged token for its algorithm; and there is no verifier
with this key for algorithms on curves, for symmetric ones, or for these beside others. -/
theorem algorithms_never_confused_forged : (∃ v,
    TokenVerifier.of sampleKeyText [.rsaPkcs1 .sha256, .rsaPss .sha512] sampleCheck = .ok v ∧
      (v.verify 0 (some forgedToken)).1 = .error (.invalidToken (.algorithmNotAllowed "HS256"))) ∧
    TokenVerifier.of sampleKeyText [.es256] sampleCheck = .error (.settings "invalid public key") ∧
    TokenVerifier.of sampleKeyText [.rsaPkcs1 .sha256, .hmac .sha256] sampleCheck =
      .error (.settings "algorithms must all use the same key family") := by
  obtain ⟨hsound, hunmade⟩ := algorithms_never_confused
  have hread : (PublicKey.read? .rsa sampleKeyText).isSome = true := by decide +kernel
  obtain ⟨key, hkey⟩ := Option.isSome_iff_exists.mp hread
  have hone : OneFamily [.rsaPkcs1 .sha256, .rsaPss .sha512] .rsa :=
    ⟨by decide, by decide, by decide⟩
  have hmade : TokenVerifier.of sampleKeyText [.rsaPkcs1 .sha256, .rsaPss .sha512] sampleCheck =
      .ok ⟨[.rsaPkcs1 .sha256, .rsaPss .sha512], sampleCheck, SignedToken.payload? key⟩ := by
    rw [of_eq hone, hkey]
  obtain ⟨-, _, _, -, -, -, -, -, -, hsymmetric⟩ := hsound _ _ _ _ (.of hmade)
  have htoken : Token.parse? (some forgedToken) = some ⟨forgedToken⟩ := by decide +kernel
  have hcurve : PublicKey.read? .ec sampleKeyText = none := by
    have hnone : (PublicKey.read? .ec sampleKeyText).isNone = true := by decide +kernel
    exact Option.isNone_iff_eq_none.mp hnone
  refine ⟨⟨_, hmade, ?_⟩, ?_, ?_⟩
  · exact hsymmetric 0 (some forgedToken) _ .sha256 htoken (by decide +kernel)
  · exact (hunmade _ _ _ _).mpr ⟨_, .key ⟨by decide, by decide, by decide⟩ hcurve, rfl⟩
  · apply (hunmade _ _ _ _).mpr
    refine ⟨_, .mixed (a := .rsaPkcs1 .sha256) (b := .hmac .sha256) ?_ ?_ ?_, rfl⟩ <;> decide

end TokenVerifier

end Gatehouse
