import Gatehouse.Config.Environment
import Gatehouse.Config.Settings
import Gatehouse.Text.Utf8
import Gatehouse.Yaml.Printer
import Gatehouse.Yaml.Value

/-!
# Loading settings

The standard settings, the settings of a YAML file and those of the environment are laid over each
other in this order, and the whole is read as the settings of the server. The written form of
settings is such a file.
-/

namespace Gatehouse

/-- Why settings cannot be loaded. -/
inductive LoadFault where
  /-- There is no such file. -/
  | noFile (path : String)
  /-- The file holds no table in YAML. -/
  | notTable
  /-- The layers together are no settings. -/
  | misfit (fault : Json.Fault)

/-- What is said when settings cannot be loaded, with the reason if it is apart. -/
def LoadFault.messages : LoadFault → List String
  | noFile path => [s!"config file not found: {path}"]
  | notTable => ["failed to load configuration", "the file is not a table in YAML"]
  | misfit fault => ["failed to load configuration", fault.message]

namespace Settings

/-- How the whole is read from layers. A choice may be given there by its place. -/
def layeredForm : Json.Form Settings :=
  let logging := LogSettings.formWith (Json.choiceOrPlace LogFormat.names)
  let auth := AuthSettings.formWith (Json.choiceOrPlace Algorithm.names)
  let policy := PolicySettings.formWith (Json.choiceOrPlace Builtin.names)
  mk <$> .withDefault "server" (ServerSettings.form.extract "ServerConfig") .standard
    <*> .withDefault "logging" (logging.extract "LoggingConfig") .standard
    <*> .withDefault "auth" (auth.extract "AuthConfig") .standard
    <*> .withDefault "policy" (policy.extract "PolicyConfig") .standard
    <*> .withDefault "companies" (PagingSettings.form.extract "CompaniesConfig") .standard

/-- The settings that layers describe, the lowest first. -/
def ofLayers (layers : List Json) : Except Json.Fault Settings :=
  layeredForm.extract "AppConfig" (layers.foldl Layer.overlay (.obj [])).toTree

/-- The layer of a file. -/
def fileLayer (file : String) : Except LoadFault Json :=
  match Yaml.members? file with
  | some ms => .ok (.obj ms)
  | none => .error .notTable

/-- The settings of a server with a file, if there is one, and an environment. -/
def load (file : Option String) (env : Environment) : Except LoadFault Settings := do
  let fromFile ← match file with
    | some text => (fileLayer text).map fun x => [x]
    | none => pure []
  (ofLayers (standard.toJson :: fromFile ++ [env.layer])).mapError .misfit

/-- The settings of a server with the file at a path, if one is given, and an environment. -/
def loadFrom (path : Option String) (files : AuthSettings.Files) (env : Environment) :
    Except LoadFault Settings :=
  match path with
  | none => load none env
  | some path =>
    match files path with
    | .error _ => .error (.noFile path)
    | .ok bytes =>
      match Text.decodeUtf8? bytes with
      | some cs => load (some (String.ofList cs)) env
      | none => .error .notTable

/-- The settings as a file. -/
def dump (s : Settings) : String := Yaml.text (Layer.membersOf s.toJson)

end Settings

end Gatehouse
