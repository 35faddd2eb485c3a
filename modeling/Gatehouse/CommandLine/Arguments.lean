import Gatehouse.Decimal.Numeral

/-!
# Arguments of the command line

What the arguments of the server ask for. Options stand before the command, and the arguments are
read from left to right, so that the first mistake counts, and a request for help counts if no
mistake comes before it. An option's value is looked at when the next option or the end is reached.
-/

namespace Gatehouse.CommandLine

/-- What the server can be told to do. -/
inductive Command where
  | run
  | check
  | help
  deriving DecidableEq

namespace Command

/-- All commands. -/
def all : List Command := [run, check, help]

/-- The name on the command line. -/
def name : Command → String
  | run => "run"
  | check => "check"
  | help => "help"

/-- The command with a given name. -/
def ofName? (s : String) : Option Command := all.find? fun c => c.name == s

end Command

/-- The options. -/
inductive Flag where
  | config
  | port
  | printConfig
  | verbose
  | help
  | version
  deriving DecidableEq

namespace Flag

/-- All options. -/
def all : List Flag := [config, port, printConfig, verbose, help, version]

/-- The long name. -/
def long : Flag → String
  | config => "config"
  | port => "port"
  | printConfig => "print-config"
  | verbose => "verbose"
  | help => "help"
  | version => "version"

/-- The letter, if the option has one. -/
def letter? : Flag → Option Char
  | config => some 'c'
  | port => some 'p'
  | printConfig => none
  | verbose => some 'v'
  | help => some 'h'
  | version => some 'V'

/-- What stands for the value, if the option takes one. -/
def valueName? : Flag → Option String
  | config => some "CONFIG"
  | port => some "PORT"
  | _ => none

/-- The option as messages show it. -/
def shown (f : Flag) : String :=
  match f, f.valueName? with
  | verbose, _ => "--verbose..."
  | _, some v => s!"--{f.long} <{v}>"
  | _, none => s!"--{f.long}"

/-- The option with a given long name. -/
def ofLong? (s : String) : Option Flag := all.find? fun f => f.long == s

/-- The option with a given letter. -/
def ofLetter? (c : Char) : Option Flag := all.find? fun f => f.letter? == some c

end Flag

/-- Why a text is no network port. -/
inductive PortFault where
  | noNumber (why : Numeral.Fault)
  | outside (n : Int)
  deriving DecidableEq

/-- What is said about a text that is no network port. -/
def PortFault.message : PortFault → String
  | noNumber why => why.message
  | outside n => s!"{n} is not in 0..=65535"

/-- Reads a network port. -/
def readPort (s : String) : Except PortFault UInt16 :=
  match Numeral.read (-0x8000000000000000) 0x7FFFFFFFFFFFFFFF s.toList with
  | .ok n => if 0 ≤ n ∧ n < 65536 then .ok n.toNat.toUInt16 else .error (.outside n)
  | .error why => .error (.noNumber why)

/-- A mistake in the arguments. -/
inductive Mistake where
  | unexpected (argument : String)
  | unexpectedValue (value : String) (flag : Flag)
  | missingValue (flag : Flag)
  | invalidPort (value : String) (why : PortFault)
  | repeated (flag : Flag)
  | unknownCommand (name : String)
  deriving DecidableEq

/-- What is said about a mistake. -/
def Mistake.message : Mistake → String
  | unexpected argument => s!"unexpected argument '{argument}' found"
  | unexpectedValue value flag =>
    s!"unexpected value '{value}' for '{flag.shown}' found; no more were expected"
  | missingValue flag => s!"a value is required for '{flag.shown}' but none was supplied"
  | invalidPort value why => s!"invalid value '{value}' for '{Flag.port.shown}': {why.message}"
  | repeated flag => s!"the argument '{flag.shown}' cannot be used multiple times"
  | unknownCommand name => s!"unrecognized subcommand '{name}'"

/-- What the options say. -/
structure Options where
  config : Option String
  port : Option UInt16
  printConfig : Bool
  verbosity : Nat
  deriving DecidableEq

namespace Options

/-- No options. -/
def none : Options := ⟨.none, .none, false, 0⟩

/-- The verbosity is counted up to here. -/
def maxVerbosity : Nat := 255

end Options

/-- What the arguments ask for. -/
inductive Request where
  | perform (options : Options) (command : Option Command)
  /-- Help on the whole, or on one command. -/
  | help (topic : Option Command)
  | version
  deriving DecidableEq

/-- Why reading stops before the end: a mistake, or a request that is answered at once. -/
inductive Stop where
  | mistake (m : Mistake)
  | request (r : Request)
  deriving DecidableEq

/-- The state of reading: the options so far, the option whose value has not been looked at with
the value if it has come, and whether only further names may follow. -/
structure Progress where
  options : Options
  waiting : Option (Flag × Option String)
  namesOnly : Bool

namespace Progress

/-- Nothing has been read. -/
def start : Progress := ⟨.none, none, false⟩

/-- Stops with a mistake. -/
def mistaken (m : Mistake) : Except Stop α := .error (.mistake m)

/-- Takes the value of an option. -/
def store (o : Options) (f : Flag) (value : String) : Except Stop Options :=
  match f with
  | .config =>
    if o.config.isSome then mistaken (.repeated f)
    else if value.isEmpty then mistaken (.missingValue f)
    else .ok { o with config := some value }
  | .port =>
    if o.port.isSome then mistaken (.repeated f)
    else
      match readPort value with
      | .ok n => .ok { o with port := some n }
      | .error why => mistaken (.invalidPort value why)
  | _ => .ok o

/-- Looks at the value of the option that waits, if one does. -/
def settle (p : Progress) : Except Stop Progress :=
  match p.waiting with
  | none => .ok p
  | some (f, none) => mistaken (.missingValue f)
  | some (f, some value) => do pure { p with options := ← store p.options f value, waiting := none }

/-- Takes an option that has no value. -/
def mark (p : Progress) (f : Flag) : Except Stop Progress := do
  let p ← p.settle
  match f with
  | .printConfig =>
    if p.options.printConfig then mistaken (.repeated f)
    else pure { p with options := { p.options with printConfig := true } }
  | .verbose =>
    pure { p with options := { p.options with
      verbosity := min Options.maxVerbosity (p.options.verbosity + 1) } }
  | .help => .error (.request (.help none))
  | .version => .error (.request .version)
  | .config | .port => pure p

/-- Takes an option with its value, or leaves it waiting for one. -/
def fill (p : Progress) (f : Flag) (value : Option String) : Except Stop Progress := do
  let p ← p.settle
  match value with
  | some v => pure { p with options := ← store p.options f v }
  | none => pure { p with waiting := some (f, none) }

/-- Reads a long option, after its two dashes. -/
def long (p : Progress) (body : String) : Except Stop Progress :=
  let name := String.ofList (body.toList.takeWhile (· ≠ '='))
  let value := match body.toList.dropWhile (· ≠ '=') with
    | _ :: v => some (String.ofList v)
    | [] => none
  match Flag.ofLong? name, value with
  | none, _ => mistaken (.unexpected s!"--{name}")
  | some f, value =>
    if f.valueName?.isSome then p.fill f value
    else match value with
      | some v => mistaken (.unexpectedValue v f)
      | none => p.mark f

/-- Reads letters after one dash. What follows the letter of an option with a value is the value. -/
def letters (p : Progress) : List Char → Except Stop Progress
  | [] => .ok p
  | c :: cs =>
    match Flag.ofLetter? c with
    | none => mistaken (.unexpected s!"-{c}")
    | some f =>
      if f.valueName?.isSome then
        p.fill f (match cs with
          | [] => none
          | '=' :: v => some (String.ofList v)
          | v => some (String.ofList v))
      else do letters (← p.mark f) cs

end Progress

/-- How an argument looks. -/
inductive Shape where
  | separator
  | long (body : String)
  | letters (cs : List Char)
  | name
  deriving DecidableEq

/-- How an argument looks. A single dash is a name. -/
def Shape.of (argument : String) : Shape :=
  match argument.toList with
  | ['-', '-'] => separator
  | '-' :: '-' :: body => long (String.ofList body)
  | '-' :: c :: cs => letters (c :: cs)
  | _ => name

/-- Reads the arguments after a command, which takes none but a request for help. -/
def readAfter (c : Command) : Bool → List String → Except Stop Unit
  | _, [] => .ok ()
  | namesOnly, a :: as =>
    match namesOnly, Shape.of a with
    | false, .separator => readAfter c true as
    | false, .long body =>
      let name := String.ofList (body.toList.takeWhile (· ≠ '='))
      if name ≠ Flag.help.long then .error (.mistake (.unexpected s!"--{name}"))
      else match body.toList.dropWhile (· ≠ '=') with
        | _ :: v => .error (.mistake (.unexpectedValue (String.ofList v) .help))
        | [] => .error (.request (.help (some c)))
    | false, .letters (l :: _) =>
      if some l = Flag.help.letter? then .error (.request (.help (some c)))
      else .error (.mistake (.unexpected s!"-{l}"))
    | _, _ => .error (.mistake (.unexpected a))

/-- Reads the arguments after the command that asks for help: nothing, or the name of one command. -/
def readHelp : List String → Stop
  | [] => .request (.help none)
  | a :: as =>
    match Command.ofName? a, as with
    | some c, [] => .request (.help (some c))
    | some _, b :: _ => .mistake (.unknownCommand b)
    | none, _ => .mistake (.unknownCommand a)

/-- Reads arguments, from the options so far. -/
def readFrom (p : Progress) : List String → Except Stop Request
  | [] => do pure (.perform (← p.settle).options none)
  | a :: as =>
    let valueNext := match p.waiting with
      | some (_, none) => true
      | _ => false
    match p.namesOnly, (if valueNext then none else Command.ofName? a), Shape.of a with
    | true, _, _ =>
      .error (.mistake (if (Command.ofName? a).isSome then .unexpected a else .unknownCommand a))
    | false, some .help, _ => .error (readHelp as)
    | false, some c, _ => do
      readAfter c false as
      pure (.perform (← p.settle).options (some c))
    | false, none, .separator => readFrom { p with namesOnly := true } as
    | false, none, .long body => do readFrom (← p.long body) as
    | false, none, .letters cs => do readFrom (← p.letters cs) as
    | false, none, .name =>
      match p.waiting with
      | some (f, none) => readFrom { p with waiting := some (f, some a) } as
      | _ => .error (.mistake (.unknownCommand a))

/-- What arguments ask for. -/
def read (arguments : List String) : Except Mistake Request :=
  match readFrom .start arguments with
  | .ok r => .ok r
  | .error (.request r) => .ok r
  | .error (.mistake m) => .error m

end Gatehouse.CommandLine
