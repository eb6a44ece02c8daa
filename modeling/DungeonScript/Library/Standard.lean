import DungeonScript.CommandLine
import DungeonScript.Config.Variables
import DungeonScript.Library
import DungeonScript.Settings.File

/-!
The libraries the program uses: TOML for the settings file, paths for the names of
variables, and the reader of arguments.
-/

namespace DungeonScript

namespace Config

def Value.view : Value → View Value
  | .void => .void
  | .list vs => .list vs
  | .table es => .table fun key => find? key es
  | _ => .single

/-- The paths and values of sources and of values put upon them, in their order. Paths of
    sources are texts. -/
def layers (sources : List (List (String × Value))) (above : List (List String × Value)) :
    List (Path × Value) :=
  sources.flatten.map (fun e => (Path.ofText e.1, e.2))
    ++ above.map fun e => (e.1.map .key, e.2)

/-- What comes of values that are put under paths, one after the other. -/
def putAll (es : List (Path × Value)) (v : Value) : Value :=
  es.foldl (fun v e => Value.setAt e.2 e.1 v) v

end Config

/-- The libraries the program uses. A source that cannot be read is none. -/
abbrev Library.standard : Library where
  parse := CommandLine.parse
  Value := Config.Value
  view := Config.Value.view
  whole := .whole
  truth := .truth
  parsed := Config.variableValue
  below? := Config.Value.below?
  number? := Config.Value.number?
  truth? := Config.Value.truth?
  text? := Config.Value.text?
  Source := Option (List (String × Config.Value))
  file file? path :=
    ((Settings.filePlaces path).findSome? file?).bind fun octets => Settings.entries? octets.toList
  environment xs := some (Config.ofVariables xs)
  build? sources above :=
    (sources.mapM id).map fun sources =>
      Config.putAll (Config.layers sources above) (.table [])

end DungeonScript
