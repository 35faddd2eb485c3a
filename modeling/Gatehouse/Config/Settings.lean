import Gatehouse.Auth.Settings
import Gatehouse.Config.Address
import Gatehouse.Company.Error
import Gatehouse.Policy.Settings
import Gatehouse.Company.Paging

/-!
# Settings of the server

The five sections of the configuration, each with the values that hold unless configured otherwise.
-/

namespace Gatehouse

/-- How log lines look. -/
inductive LogFormat where
  | pretty
  | json
  deriving DecidableEq

namespace LogFormat

/-- The name of a format. -/
def name : LogFormat → String
  | pretty => "pretty"
  | json => "json"

/-- The formats with their names. -/
def names : List (String × LogFormat) := [pretty, json].map fun f => (f.name, f)

/-- Reads a format. -/
def decode : Json.Decoder LogFormat := Json.choice names

end LogFormat

/-- What is logged, and how. -/
structure LogSettings where
  level : String
  format : LogFormat
  deriving DecidableEq

namespace LogSettings

/-- Readable lines from the level `info` on. -/
def standard : LogSettings := ⟨"info", .pretty⟩

/-- The written form. -/
def toJson (s : LogSettings) : Json :=
  .obj [("level", .str s.level), ("format", .str s.format.name)]

/-- How settings of the log are read, given how a format is. -/
def formWith (format : Json.Decoder LogFormat) : Json.Form LogSettings :=
  mk <$> .withDefault "level" Json.string standard.level
    <*> .withDefault "format" format standard.format

/-- Reads settings of the log. -/
def decode : Json.Decoder LogSettings :=
  (formWith LogFormat.decode).decode "LoggingConfig" .refuse

end LogSettings

/-- Where the server listens, and how many events it keeps for a slow subscriber. -/
structure ServerSettings where
  address : SocketAddress
  eventCapacity : UInt64
  deriving DecidableEq

namespace ServerSettings

/-- The local machine only, and 256 events. -/
def standard : ServerSettings := ⟨⟨.v4 127 0 0 1, 8087⟩, 256⟩

/-- The written form. -/
def toJson (s : ServerSettings) : Json :=
  .obj [("bind_addr", .str s.address.text), ("events_capacity", .nat s.eventCapacity.toNat)]

/-- Reads a capacity, which is of the machine's word size. -/
def decodeCapacity : Json.Decoder UInt64 := fun t =>
  (Json.whole "usize" 0 0xFFFFFFFFFFFFFFFF t).map fun i => i.toNat.toUInt64

/-- How settings of the server are read. -/
def form : Json.Form ServerSettings :=
  mk <$> .withDefault "bind_addr" SocketAddress.decode standard.address
    <*> .withDefault "events_capacity" decodeCapacity standard.eventCapacity

/-- Reads settings of the server. -/
def decode : Json.Decoder ServerSettings := form.decode "ServerConfig" .refuse

end ServerSettings

/-- The whole configuration. -/
structure Settings where
  server : ServerSettings
  logging : LogSettings
  auth : AuthSettings
  policy : PolicySettings
  companies : PagingSettings

namespace Settings

/-- The configuration that holds unless configured otherwise. -/
def standard : Settings := ⟨.standard, .standard, .standard, .standard, .standard⟩

/-- The written form. -/
def toJson (s : Settings) : Json :=
  .obj [("server", s.server.toJson), ("logging", s.logging.toJson), ("auth", s.auth.toJson),
    ("policy", s.policy.toJson), ("companies", s.companies.toJson)]

/-- How a configuration is read; a section that is not there is the standard one. -/
def form : Json.Form Settings :=
  mk <$> .withDefault "server" ServerSettings.decode .standard
    <*> .withDefault "logging" LogSettings.decode .standard
    <*> .withDefault "auth" AuthSettings.decode .standard
    <*> .withDefault "policy" PolicySettings.decode .standard
    <*> .withDefault "companies" PagingSettings.decode .standard

/-- Reads a configuration. -/
def decode : Json.Decoder Settings := form.decode "AppConfig" .refuse

end Settings

end Gatehouse
