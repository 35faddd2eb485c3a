import Gatehouse.CommandLine.Arguments

/-!
# Help texts

What the server prints about itself and its command line.
-/

namespace Gatehouse.CommandLine

/-- The name of the server on the command line. -/
def programName : String := "companies-server"

/-- The version of the server. -/
def version : String := "0.1.0"

/-- Lines, each with its break. -/
def lines (ls : List String) : String := String.join (ls.map fun l => l ++ "\n")

/-- What a command does. -/
def Command.about : Command → String
  | run => "Run the server"
  | check => "Validate configuration and exit"
  | help => "Print this message or the help of the given subcommand(s)"

/-- How the arguments are written, on the whole or after a command. -/
def usage : Option Command → String
  | none => s!"Usage: {programName} [OPTIONS] [COMMAND]"
  | some .help => s!"Usage: {programName} help [COMMAND]..."
  | some c => s!"Usage: {programName} {c.name}"

/-- Help on the whole. -/
def generalHelp : List String :=
  ["Companies server: REST access to companies behind the authorization gate",
    "",
    usage none,
    "",
    "Commands:",
    s!"  run    {Command.run.about}",
    s!"  check  {Command.check.about}",
    s!"  help   {Command.help.about}",
    "",
    "Options:",
    "  -c, --config <CONFIG>  Path to configuration file",
    "  -p, --port <PORT>      Port override for HTTP server",
    "      --print-config     Print effective configuration (YAML) and exit",
    "  -v, --verbose...       Log verbosity level (-v info, -vv debug, -vvv trace)",
    "  -h, --help             Print help",
    "  -V, --version          Print version"]

/-- The last part of the help on a command: its arguments or its options. -/
def commandArguments : Command → List String
  | .help => ["Arguments:", "  [COMMAND]...  Print help for the subcommand(s)"]
  | _ => ["Options:", "  -h, --help  Print help"]

/-- Help on the whole or on one command. -/
def help : Option Command → String
  | none => lines generalHelp
  | some c => lines ([c.about, "", usage (some c), ""] ++ commandArguments c)

/-- What is printed about a mistake in the arguments. -/
def complaint (m : Mistake) : String :=
  lines [s!"error: {m.message}", "", usage none, "", "For more information, try '--help'."]

end Gatehouse.CommandLine
