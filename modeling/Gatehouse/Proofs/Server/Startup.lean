import Gatehouse.Server.App
import Gatehouse.Proofs.Auth.Validity
import Gatehouse.Proofs.Gate.Gapless
import Gatehouse.Proofs.Json.Values
import Gatehouse.Proofs.Notify.Ring

/-!
# Starting with checked settings

The check of the settings makes the verifier and the tables of the policy just as the application
does, but it never looks at the section of the server. So settings that pass can be started with as
long as the channel can keep as many events as they ask for, and there is no application otherwise.
-/

namespace Gatehouse

/-! ## The parts -/

namespace AuthSettings

/-- The file that the key is read from, if there is one, is the same in both. -/
def SameKey (s : AuthSettings) (files files' : Files) : Prop :=
  ∀ path, s.keyPath = some path → files' path = files path

theorem keyBytes_of_sameKey {s : AuthSettings} {files files' : Files}
    (h : s.SameKey files files') : s.keyBytes files' = s.keyBytes files := by
  simp only [keyBytes]
  cases hpath : s.keyPath with
  | none => rfl
  | some path => simp only [h path hpath]

end AuthSettings

/-- Only the key file matters to the verifier. -/
theorem TokenVerifier.ofSettings_of_sameKey {s : AuthSettings} {files files' : AuthSettings.Files}
    (h : s.SameKey files files') : ofSettings s files' = ofSettings s files := by
  rw [ofSettings, ofSettings, AuthSettings.keyBytes_of_sameKey h]

/-- There is a gate for every policy that has an evaluator. -/
theorem CompanyGate.exists_of_evaluator {p : PolicySettings}
    {e : Evaluator Operation Company.resource} (h : p.evaluator Company.resource = .ok e) :
    ∃ g, ofSettings p = .ok g := by
  obtain ⟨hcomplete, rfl⟩ := PolicySettings.evaluator_eq_ok.mp h
  refine ⟨⟨_, hcomplete⟩, bind_eq_ok.mpr ⟨_, h, ?_⟩⟩
  rw [Gate.of]
  split
  · rfl
  · rename_i hfails
    cases hcomplete.symm.trans hfails

/-! ## The whole -/

/-- What passes the check is a verifier, sizes of pages and tables without gaps. -/
theorem Settings.check_eq_ok {s : Settings} {files : AuthSettings.Files} : s.check files = .ok () ↔
    (∃ v, TokenVerifier.ofSettings s.auth files = .ok v) ∧ s.companies.validate = .ok () ∧
      ∃ e, s.policy.evaluator Company.resource = .ok e := by
  simp only [check, bind_eq_ok, mapError_eq_ok]
  constructor
  · rintro ⟨v, hv, ⟨⟩, hpaging, e, he, -⟩
    exact ⟨⟨v, hv⟩, hpaging, e, he⟩
  · rintro ⟨⟨v, hv⟩, hpaging, e, he⟩
    exact ⟨v, hv, (), hpaging, e, he, rfl⟩

namespace App

/-- The parts of an application are those that its settings ask for. -/
structure MadeOf (app : App) (s : Settings) (files : AuthSettings.Files) : Prop where
  verifier : TokenVerifier.ofSettings s.auth files = .ok app.verifier
  gate : CompanyGate.ofSettings s.policy = .ok app.gate
  paging : app.paging = s.companies
  channel : Channel.open? s.server.eventCapacity.toNat = some app.channel

theorem build_eq_ok {s : Settings} {files : AuthSettings.Files} {app : App} :
    build s files = .ok app ↔ app.MadeOf s files := by
  simp only [build, bind_eq_ok, mapError_eq_ok]
  constructor
  · rintro ⟨v, hv, h⟩
    split at h
    · rename_i channel hchannel
      obtain ⟨g, hg, h⟩ := bind_eq_ok.mp h
      cases h
      exact ⟨hv, mapError_eq_ok.mp hg, rfl, hchannel⟩
    · cases h
  · obtain ⟨v, g, paging, channel⟩ := app
    rintro ⟨hv, hg, rfl, hchannel⟩
    refine ⟨v, hv, ?_⟩
    simp only [hchannel, bind_eq_ok, mapError_eq_ok]
    exact ⟨g, hg, rfl⟩

/-- **Checked settings start unless they ask for too many events.** If settings have passed the
check and the key file is still the same, there is an application for them, made of what they ask
for, exactly if a channel can keep as many events as they ask for. If none can, making the
application breaks down. -/
theorem checked_settings_start_iff {s : Settings} {files files' : AuthSettings.Files}
    (hcheck : s.check files = .ok ()) (hkey : s.auth.SameKey files files') :
    ((∃ app, build s files' = .ok app ∧ app.MadeOf s files') ↔
      s.server.eventCapacity.toNat ≤ Channel.maxCapacity) ∧
    (Channel.maxCapacity < s.server.eventCapacity.toNat → build s files' = .error .capacity) := by
  obtain ⟨⟨v, hv⟩, -, e, he⟩ := Settings.check_eq_ok.mp hcheck
  rw [← TokenVerifier.ofSettings_of_sameKey hkey] at hv
  have hbreaks (hlarge : Channel.maxCapacity < s.server.eventCapacity.toNat) :
      build s files' = .error .capacity := by
    rw [build, hv, Channel.open?_eq_none hlarge]
    rfl
  refine ⟨⟨?_, ?_⟩, hbreaks⟩
  · rintro ⟨app, happ, -⟩
    by_contra hlarge
    cases happ.symm.trans (hbreaks (Nat.lt_of_not_le hlarge))
  · intro hfits
    obtain ⟨channel, hchannel⟩ := Channel.open?_eq_some (E := Event Company) hfits
    obtain ⟨g, hg⟩ := CompanyGate.exists_of_evaluator he
    have hmade : MadeOf ⟨v, g, s.companies, channel⟩ s files' := ⟨hv, hg, rfl, hchannel⟩
    exact ⟨_, build_eq_ok.mpr hmade, hmade⟩

/-- The standard settings with a key in a file, and a number of events to keep. -/
def keeping (capacity : UInt64) : Settings :=
  { Settings.standard with
    server := { ServerSettings.standard with eventCapacity := capacity }
    auth := TokenVerifier.sampleSettings }

/-- The check does not depend on the number of events to keep. -/
theorem check_keeping (capacity : UInt64) :
    (keeping capacity).check (fun _ => .ok TokenVerifier.sampleKeyText) = .ok () := by
  have hread : (PublicKey.read? .rsa TokenVerifier.sampleKeyText).isSome = true := by decide +kernel
  obtain ⟨key, hkey⟩ := Option.isSome_iff_exists.mp hread
  refine Settings.check_eq_ok.mpr ⟨⟨⟨[.rsaPkcs1 .sha256], TokenVerifier.sampleCheck,
    SignedToken.payload? key⟩, ?_⟩, rfl, _, rfl⟩
  show TokenVerifier.of TokenVerifier.sampleKeyText [.rsaPkcs1 .sha256]
    TokenVerifier.sampleCheck = _
  simp [TokenVerifier.of, TokenVerifier.familyOf, Algorithm.family, hkey, Bind.bind, Except.bind]

/-- Room for a few thousand events, and a key file beside which another one has come up since the
check. -/
theorem checked_settings_start_iff_fits :
    ∃ app, build (keeping 4096) (fun path =>
      if path = "key.pem" then .ok TokenVerifier.sampleKeyText else .ok []) = .ok app := by
  have hkey : (keeping 4096).auth.SameKey (fun _ => .ok TokenVerifier.sampleKeyText)
      (fun path => if path = "key.pem" then .ok TokenVerifier.sampleKeyText else .ok []) := by
    rintro path hpath
    cases hpath
    rfl
  obtain ⟨app, happ, -⟩ := (checked_settings_start_iff (check_keeping _) hkey).1.mpr (by decide)
  exact ⟨app, happ⟩

/-- Settings that ask for one event more than any channel keeps pass the check, and there is no
application for them. -/
theorem checked_settings_break_down :
    ∃ files, (keeping 0x8000000000000000).check files = .ok () ∧
      build (keeping 0x8000000000000000) files = .error .capacity := by
  refine ⟨_, check_keeping _, ?_⟩
  obtain ⟨⟨v, hv⟩, -⟩ := Settings.check_eq_ok.mp (check_keeping 0x8000000000000000)
  rw [build, hv, Channel.open?_eq_none (by decide)]
  rfl

end App

end Gatehouse
