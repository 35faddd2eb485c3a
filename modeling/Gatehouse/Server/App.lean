import Gatehouse.Auth.TokenVerifier
import Gatehouse.Company.Service
import Gatehouse.Config.Settings
import Gatehouse.Notify.Channel

/-!
# The application

Everything the server needs, made from its settings; and the check that tells beforehand whether it
can be made.
-/

namespace Gatehouse

/-- What the server is made of. -/
structure App where
  verifier : TokenVerifier
  gate : CompanyGate
  paging : PagingSettings
  channel : Channel (Event Company)

/-- Why the server cannot be made. -/
inductive StartFault where
  | auth (why : AuthError)
  | policy (why : PolicyError)
  /-- More events are to be kept than can be. -/
  | capacity
  /-- The address to listen at belongs to another machine. -/
  | address (a : SocketAddress)

namespace App

/-- Makes the application. -/
def build (s : Settings) (files : AuthSettings.Files) : Except StartFault App := do
  let verifier ← (TokenVerifier.ofSettings s.auth files).mapError .auth
  let some channel := Channel.open? s.server.eventCapacity.toNat | .error .capacity
  let gate ← (CompanyGate.ofSettings s.policy).mapError .policy
  pure ⟨verifier, gate, s.companies, channel⟩

/-- Makes the application, ready to listen at its address. -/
def ready (s : Settings) (files : AuthSettings.Files) : Except StartFault App := do
  let app ← build s files
  if s.server.address.isOwn then pure app else .error (.address s.server.address)

end App

/-- Which section of the settings is at fault, and why. -/
inductive SectionFault where
  | auth (why : AuthError)
  | companies (why : RegistryError)
  | policy (why : PolicyError)

/-- What is said about a section at fault: the section, and the reason. -/
def SectionFault.messages : SectionFault → List String
  | auth why => ["invalid auth section", why.message]
  | companies why => ["invalid companies section", why.message]
  | policy why => ["invalid policy section", why.message]

/-- What is said when the server cannot be made: the part, and the reason. -/
def StartFault.messages : StartFault → List String
  | auth why => ["failed to build token verifier", why.message]
  | policy why => ["invalid policy configuration", why.message]
  | capacity => ["no channel keeps that many events"]
  | address a => [s!"failed to bind {a.text}"]

namespace Settings

/-- The first section that the server could not start with. -/
def check (s : Settings) (files : AuthSettings.Files) : Except SectionFault Unit := do
  let _ ← (TokenVerifier.ofSettings s.auth files).mapError .auth
  s.companies.validate.mapError .companies
  let _ ← (s.policy.evaluator Company.resource).mapError .policy

/-- The settings with another port, if one is given, and with the level of the log that so many
requests for more detail ask for. -/
def override (s : Settings) (port : Option UInt16) (verbosity : Nat) : Settings :=
  let address := match port with
    | some p => { s.server.address with port := p }
    | none => s.server.address
  let level := match verbosity with
    | 0 => s.logging.level
    | 1 => "info"
    | 2 => "debug"
    | _ => "trace"
  { s with
    server := { s.server with address := address }
    logging := { s.logging with level := level } }

end Settings

end Gatehouse
