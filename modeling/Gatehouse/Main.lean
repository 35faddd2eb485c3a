import Gatehouse.CommandLine.Session

/-!
# The program

Gives the server its arguments, the variables of the environment and the files it asks for, prints
what it has to say, and ends with its code. Nothing here listens to the network: that is left to a
host that passes requests on to the routes, and without one an order to serve fails.
-/

namespace Gatehouse.Terminal

open CommandLine (Surroundings)

/-- The files that have been read: their bytes, or why they cannot be read. -/
abbrev Fetched := List (String × Except String (List UInt8))

/-- The file at a path, if it has been read. -/
def Fetched.files (fetched : Fetched) : AuthSettings.Files := fun path =>
  match fetched.find? fun f => f.1 == path with
  | some (_, outcome) => outcome
  | none => .error "not read"

/-- Reads the files at some paths. -/
def fetch (paths : List String) : IO Fetched :=
  paths.mapM fun (path : String) => do
    try
      let bytes ← IO.FS.readBinFile path
      pure (path, .ok bytes.toList)
    catch
      | .noFileOrDirectory _ _ _ => pure (path, .error "No such file or directory (os error 2)")
      | e => pure (path, .error (toString e))

/-- The variables of a block in which each is ended by a null character. -/
def variablesOf (block : String) : Environment :=
  (Text.parts '\x00' block.toList).filterMap fun entry =>
    (Text.cutAt '=' entry).map fun (name, value) => (String.ofList name, String.ofList value)

/-- The variables of the environment. -/
def readEnvironment : IO Environment := do
  try
    pure (variablesOf (← IO.FS.readFile "/proc/self/environ"))
  catch _ => pure []

/-- Runs the server with arguments, and returns its code. -/
def session (arguments : List String) : IO UInt32 := do
  let environment ← readEnvironment
  let settingsFile ← fetch (CommandLine.paths arguments ⟨environment, Fetched.files []⟩)
  let fetched ← fetch (CommandLine.paths arguments ⟨environment, settingsFile.files⟩)
  match CommandLine.run arguments ⟨environment, fetched.files⟩ with
  | .exit code output complaint =>
    IO.print output
    IO.eprint complaint
    pure code.toUInt32
  | .serve settings _ =>
    IO.eprint (CommandLine.failureText [s!"failed to bind {settings.server.address.text}"])
    pure 1

end Gatehouse.Terminal

/-- Runs the server. -/
def main (arguments : List String) : IO UInt32 := Gatehouse.Terminal.session arguments
