import Gatehouse.Config.Layer
import Gatehouse.Config.Literal

/-!
# Settings in the environment

A variable whose name begins with `APP__`, in any letter case, names a setting: two underscores
stand between the names of a section and of what is in it. Its value is a literal.
-/

namespace Gatehouse

/-- The variables of the environment, each with its value. -/
abbrev Environment := List (String × String)

namespace Environment

/-- How the names of the variables that hold settings begin. -/
def marker : List Char := ['A', 'P', 'P', '_', '_']

/-- A text with a point for every two underscores. -/
def pointed : List Char → List Char
  | '_' :: '_' :: cs => '.' :: pointed cs
  | c :: cs => c :: pointed cs
  | [] => []

/-- The path of the setting that a variable names, if it names one. -/
def path? (entry : String) : Option (List String) :=
  let name := Text.trimChars entry.toList
  if Text.sameIgnoringCase (name.take marker.length) marker then
    let parts := Text.parts '.' (Text.trimChars (pointed (name.drop marker.length)))
    if parts.any List.isEmpty then none
    else some (parts.map fun p => String.ofList (p.map Char.toLower))
  else none

/-- The setting that a variable names, as a layer. -/
def setting? (entry : String × String) : Option Json :=
  (path? entry.1).map fun path => Layer.nest path (Literal.value entry.2)

/-- The settings of an environment, those of later variables over those of earlier ones. -/
def layer (env : Environment) : Json :=
  (env.filterMap setting?).foldl Layer.overlay (.obj [])

/-- The value of a variable. -/
def get? (env : Environment) (name : String) : Option String :=
  (env.find? fun v => v.1 == name).map Prod.snd

end Environment

end Gatehouse
