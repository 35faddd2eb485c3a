import Gatehouse.Proofs.Auth.Bearer
import Gatehouse.Proofs.Http.Answer

/-!
# Presented credentials

A request whose first authorization value presents a bearer credential is judged by who the caller
turns out to be, or not at all. That holds for credentials in ASCII; a value with any other character
is read as no value, and its request is judged as that of an anonymous caller.
-/

namespace Gatehouse.Http

open Bearer

variable {tokens : TokenVerifier} {now : Int64} {g : CompanyGate} {r : Request} {a : Action}
  {op : Operation} {v : HeaderValue} {after : List Char}

/-- A run in which a verifier of signed tokens speaks. -/
def VerifiedBy (tokens : TokenVerifier) (now : Int64)
    (t : Trace (gateSignature Company.resource)) : Prop :=
  ∀ c x, ⟨.verify c, x⟩ ∈ t → x = (tokens.verify now c).1

variable (tokens now) in
/-- A credential that is presented in ASCII is verified: it stands for somebody, or it is bad. -/
theorem verify_of_ascii (hfirst : (r.values "authorization").head? = some v) (h : Presents v after)
    (hascii : ∀ b ∈ v.bytes, b < 0x80) :
    (∃ s, (tokens.verify now r.credential?).1 = .ok (some s)) ∨
      ∃ why, (tokens.verify now r.credential?).1 = .error (.invalidToken why) := by
  rw [Request.credential?, fromHeaders?_of_ascii hfirst h hascii]
  obtain ⟨token, htoken⟩ := parse?_of_presents h
  exact TokenVerifier.verify_of_parse? htoken

variable (tokens now) in
/-- A credential in a value beyond ASCII is taken for no credential. -/
theorem verify_of_not_ascii (hfirst : (r.values "authorization").head? = some v)
    (h : ∃ b ∈ v.bytes, 0x80 ≤ b) : (tokens.verify now r.credential?).1 = .ok none := by
  rw [Request.credential?, fromHeaders?_of_not_ascii hfirst h]
  exact TokenVerifier.verify_none

/-- Nobody who presents a credential in ASCII is judged as an anonymous caller. -/
theorem not_checksFor_none_of_ascii (hfirst : (r.values "authorization").head? = some v)
    (h : Presents v after) (hascii : ∀ b ∈ v.bytes, b < 0x80)
    {t : Trace (gateSignature Company.resource)} (ht : VerifiedBy tokens now t) :
    ¬Gate.ChecksFor g op ⟨r.credential?⟩ none t := by
  intro hchecks
  have hnone := ht _ _ hchecks.verify_mem
  rcases verify_of_ascii tokens now hfirst h hascii with ⟨s, hs⟩ | ⟨why, hwhy⟩
  · rw [hs] at hnone
    cases hnone
  · rw [hwhy] at hnone
    cases hnone

variable (tokens now g) in
/-- In a run that nobody cancels, a value beyond ASCII makes the caller an anonymous one. -/
theorem exists_checksFor_none (hfirst : (r.values "authorization").head? = some v)
    (hbytes : ∃ b ∈ v.bytes, 0x80 ≤ b) (ha : r.Performs a) (hop : a.operation? = some op)
    (hl : a.legible) :
    ∃ t, (respond g r).carryOut.Begins t ∧ VerifiedBy tokens now t ∧
      Gate.ChecksFor g op ⟨r.credential?⟩ none t := by
  obtain ⟨β, reply, rest, hr, _⟩ := respond_eq_admitting (g := g) ha hop hl
  let verify : Option String → Except AuthError (Option Subject) := fun c =>
    (tokens.verify now c).1
  let p := (respond g r).carryOut
  have hends := Program.ends_play (Gate.obliging (K := Company.resource) default verify) p
  have hattended := Gate.attended_obliging (K := Company.resource) default verify p
  have hnone : verify r.credential? = .ok none := verify_of_not_ascii tokens now hfirst hbytes
  refine ⟨_, hends.begins, hattended.verified, ?_⟩
  simp only [p, hr] at hends hattended ⊢
  obtain ⟨x, hx, _⟩ := Request.ends_carryOut_map.mp hends
  -- The verifier is asked in every such run, and what it says is that nobody is there.
  rcases Gate.checksFor_of_ends hx with ⟨hpoll, _⟩ | ⟨why, hwhy, _⟩ | ⟨s, hs⟩
  · cases hattended.wanted _ hpoll
  · have herror : Except.error why = verify r.credential? := hattended.verified _ _ hwhy
    rw [hnone] at herror
    cases herror
  · have hok : Except.ok s = verify r.credential? := hattended.verified _ _ hs.verify_mem
    rw [hnone] at hok
    cases hok
    exact hs

/-- What becomes of a request that presents a credential in ASCII. -/
theorem ends_of_ascii (hfirst : (r.values "authorization").head? = some v) (h : Presents v after)
    (hascii : ∀ b ∈ v.bytes, b < 0x80) (ha : r.Performs a) (hop : a.operation? = some op)
    (hl : a.legible) {t : Trace (gateSignature Company.resource)} {reply : Reply}
    (ht : (respond g r).carryOut.Ends t reply) (hverified : VerifiedBy tokens now t) :
    (∃ s, Gate.ChecksFor g op ⟨r.credential?⟩ (some s) t) ∨
      reply.Reports .badToken ∨ reply.Reports .cancelled := by
  obtain ⟨β, replyTo, rest, hr, hreports⟩ := respond_eq_admitting (g := g) ha hop hl
  rw [hr, Request.ends_carryOut_map] at ht
  obtain ⟨x, hx, rfl⟩ := ht
  have hverdict := verify_of_ascii tokens now hfirst h hascii
  rcases Gate.checksFor_of_ends hx with ⟨_, rfl⟩ | ⟨why, hwhy, rfl⟩ | ⟨s, hs⟩
  · exact .inr (.inr (hreports .cancelled))
  · rw [← hverified _ _ hwhy] at hverdict
    rcases hverdict with ⟨s, hs⟩ | ⟨e, he⟩
    · cases hs
    · cases he
      exact .inr (.inl (hreports .badToken))
  · rw [← hverified _ _ hs.verify_mem] at hverdict
    rcases hverdict with ⟨s', hs'⟩ | ⟨e, he⟩
    · cases hs'
      exact .inl ⟨s', hs⟩
    · cases he

/-- A check is made only for a request whose identifier, if it has one, is text. -/
theorem legible_of_checksFor (ha : r.Performs a) {s : Option Subject}
    {t : Trace (gateSignature Company.resource)} (ht : (respond g r).carryOut.Begins t)
    (h : Gate.ChecksFor g op ⟨r.credential?⟩ s t) : a.legible := by
  by_contra hl
  obtain ⟨reply, hreply⟩ := respond_of_illegible (g := g) ha (Bool.eq_false_iff.mpr hl)
  rw [hreply] at ht
  obtain rfl : t = [] := ht
  cases h.verify_mem

/-- **A presented credential is taken for none exactly if its header value is not all ASCII.** The
coarse check of a request that presents a bearer credential can be made for an anonymous caller
exactly if it can be made at all, since the identifier in the path is text, and a byte of the value
lies beyond ASCII. If none does, every request with such a path that is over has made the check for a
verified subject, or has failed with a bad token or because it was cancelled. -/
theorem presented_taken_for_none_iff (hfirst : (r.values "authorization").head? = some v)
    (h : Presents v after) (ha : r.Performs a) (hop : a.operation? = some op) :
    ((∃ t, (respond g r).carryOut.Begins t ∧ VerifiedBy tokens now t ∧
        Gate.ChecksFor g op ⟨r.credential?⟩ none t) ↔ a.legible ∧ ∃ b ∈ v.bytes, 0x80 ≤ b) ∧
    (a.legible → (∀ b ∈ v.bytes, b < 0x80) → ∀ t reply, (respond g r).carryOut.Ends t reply →
      VerifiedBy tokens now t → (∃ s, Gate.ChecksFor g op ⟨r.credential?⟩ (some s) t) ∨
        reply.Reports .badToken ∨ reply.Reports .cancelled) := by
  refine ⟨⟨?_, ?_⟩, ?_⟩
  · rintro ⟨t, ht, hverified, hchecks⟩
    refine ⟨legible_of_checksFor ha ht hchecks, ?_⟩
    by_contra hbytes
    have hascii : ∀ b ∈ v.bytes, b < 0x80 := fun b hb => by
      by_contra hlt
      exact hbytes ⟨b, hb, UInt8.not_lt.mp hlt⟩
    exact not_checksFor_none_of_ascii hfirst h hascii hverified hchecks
  · rintro ⟨hl, hbytes⟩
    exact exists_checksFor_none tokens now g hfirst hbytes ha hop hl
  · intro hl hascii t reply ht hverified
    exact ends_of_ascii hfirst h hascii ha hop hl ht hverified

/-! ## A credential with an umlaut -/

/-- The value "Bearer tökén". -/
def foreignValue : HeaderValue := ⟨"Bearer tökén".toUTF8.toList, by decide +kernel⟩

/-- The value "bearer token". -/
def plainValue : HeaderValue := ⟨"bearer token".toUTF8.toList, by decide +kernel⟩

theorem presents_foreignValue : Presents foreignValue ['t', 'ö', 'k', 'é', 'n'] where
  text := ⟨"Bearer tökén".toList, by decide +kernel, ['B', 'e', 'a', 'r', 'e', 'r'],
    by decide +kernel, by decide +kernel⟩
  visible := ⟨'t', by decide, by decide⟩

theorem presents_plainValue : Presents plainValue ['t', 'o', 'k', 'e', 'n'] where
  text := ⟨"bearer token".toList, by decide +kernel, scheme, by decide +kernel, by decide +kernel⟩
  visible := ⟨'t', by decide, by decide⟩

/-- A listing asked for with an authorization value. -/
def listing (value : HeaderValue) : Request where
  method := "GET"
  target := ⟨"/companies".toList, none⟩
  headers := [("authorization", value)]
  body := []

/-- A verifier that accepts no token at all. -/
def strict : TokenVerifier := ⟨[], ⟨"", 0, true⟩, fun _ _ => none⟩

theorem performs_listing (value : HeaderValue) : (listing value).Performs .list :=
  have hroute : Route.of? "/companies".toList = some .companies := by decide +kernel
  ⟨.companies, hroute, rfl⟩

/-- One of the two values makes the caller anonymous. -/
theorem presented_taken_for_none_listing :
    ∃ g, CompanyGate.ofSettings .standard = .ok g ∧
      (∃ t, (respond g (listing foreignValue)).carryOut.Begins t ∧ VerifiedBy strict 0 t ∧
        Gate.ChecksFor g .list ⟨(listing foreignValue).credential?⟩ none t) ∧
      ¬∃ t, (respond g (listing plainValue)).carryOut.Begins t ∧ VerifiedBy strict 0 t ∧
        Gate.ChecksFor g .list ⟨(listing plainValue).credential?⟩ none t := by
  obtain ⟨g, hg⟩ : ∃ g, CompanyGate.ofSettings .standard = .ok g := ⟨_, rfl⟩
  refine ⟨g, hg, ?_, ?_⟩
  · refine (presented_taken_for_none_iff rfl presents_foreignValue (performs_listing _) rfl).1.mpr
      ⟨rfl, ?_⟩
    decide +kernel
  · intro hnone
    obtain ⟨_, hforeign⟩ := (presented_taken_for_none_iff (r := listing plainValue) rfl
      presents_plainValue (performs_listing _) rfl).1.mp hnone
    revert hforeign
    decide +kernel

/-- A verifier that accepts no token takes a presented one for none. -/
theorem foreign_credential_anonymous :
    Presents foreignValue ['t', 'ö', 'k', 'é', 'n'] ∧
      (listing foreignValue).values "authorization" = [foreignValue] ∧
      ∃ g, CompanyGate.ofSettings .standard = .ok g ∧
        ∃ t, (respond g (listing foreignValue)).carryOut.Begins t ∧ VerifiedBy strict 0 t ∧
          Gate.ChecksFor g .list ⟨(listing foreignValue).credential?⟩ none t := by
  obtain ⟨g, hg⟩ : ∃ g, CompanyGate.ofSettings .standard = .ok g := ⟨_, rfl⟩
  refine ⟨presents_foreignValue, rfl, g, hg, ?_⟩
  exact exists_checksFor_none strict 0 g rfl (by decide +kernel) (performs_listing _) rfl rfl

end Gatehouse.Http
