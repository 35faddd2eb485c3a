import Gatehouse.CommandLine.Help
import Gatehouse.Config.Load
import Gatehouse.Logging.Filter
import Gatehouse.Server.App

/-!
# A run of the server

What the server does with its arguments in given surroundings: it prints something and ends, or it
is ready to serve.
-/

namespace Gatehouse.CommandLine

/-- What a run of the server sees: the variables of the environment, and the files. -/
structure Surroundings where
  environment : Environment
  files : AuthSettings.Files

/-- How a run of the server ends: with a code, what it has printed and what it has complained about;
or it goes on to serve. -/
inductive Ending where
  | exit (code : Nat) (output complaint : String)
  | serve (settings : Settings) (app : App)

/-- The variable with the log filter that comes before the configured one. -/
def filterVariable : String := "RUST_LOG"

/-- What is said if the configured log filter is none and the environment has no better one. -/
def filterFault (level : String) (env : Environment) : Option String :=
  if (env.get? filterVariable).any LogFilter.isFilter || LogFilter.isFilter level then none
  else some s!"invalid log filter '{level}': invalid filter directive"

/-- What is printed about a failure: what failed, and the reasons if there are any. -/
def failureText : List String → String
  | [] => ""
  | [m] => lines [s!"Error: {m}"]
  | [m, cause] => lines [s!"Error: {m}", "", "Caused by:", s!"    {cause}"]
  | m :: causes =>
    lines ([s!"Error: {m}", "", "Caused by:"] ++
      (List.range causes.length).zipWith (fun i c => s!"    {i}: {c}") causes)

/-- Runs the server with settings; a failure is what is said about it. -/
def start (s : Settings) (command : Command) (w : Surroundings) : Except (List String) Ending := do
  if let some fault := filterFault s.logging.level w.environment then .error [fault]
  (s.check w.files).mapError SectionFault.messages
  if command = .check then pure (.exit 0 (lines ["Configuration is valid"]) "")
  else pure (.serve s (← (App.ready s w.files).mapError StartFault.messages))

/-- Runs the server with options; a failure is what is said about it. -/
def perform (o : Options) (command : Option Command) (w : Surroundings) :
    Except (List String) Ending := do
  let loaded ← (Settings.loadFrom o.config w.files w.environment).mapError LoadFault.messages
  let s := loaded.override o.port o.verbosity
  if o.printConfig then pure (.exit 0 (lines ["Effective configuration:", s.dump]) "")
  else start s (command.getD .run) w

/-- Runs the server with arguments. -/
def run (arguments : List String) (w : Surroundings) : Ending :=
  match read arguments with
  | .error m => .exit 2 "" (complaint m)
  | .ok .version => .exit 0 (lines [s!"{programName} {version}"]) ""
  | .ok (.help topic) => .exit 0 (help topic) ""
  | .ok (.perform o command) =>
    match perform o command w with
    | .ok e => e
    | .error messages => .exit 1 "" (failureText messages)

/-- The paths of the files that a run looks at, as far as the files that it sees tell. -/
def paths (arguments : List String) (w : Surroundings) : List String :=
  match read arguments with
  | .ok (.perform o _) =>
    o.config.toList ++
      match Settings.loadFrom o.config w.files w.environment with
      | .ok s => s.auth.keyPath.toList
      | .error _ => []
  | _ => []

end Gatehouse.CommandLine
