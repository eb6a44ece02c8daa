import DungeonScript.Config.Path

/-!
Variables of the environment as a configuration. A variable counts when its name starts
with `KEEPER_`, in any case; the rest of the name is a path, in which two underscores
together stand for a point.
-/

namespace DungeonScript

namespace Config

/-- What the name of a variable that counts starts with. -/
def variablePrefix : List Char := "keeper_".toList

/-- A letter in lower case. Beyond ASCII the kelvin sign is the one character whose lower
    case may stand in a path; all others are left as they are. -/
def lowerCase (c : Char) : Char := if c = '\u212a' then 'k' else c.toLower

/-- A name with a point for every two underscores. -/
def pointed : List Char → List Char
  | '_' :: '_' :: rest => '.' :: pointed rest
  | c :: rest => c :: pointed rest
  | [] => []

/-- The path a variable stands for, as a text, if it counts. -/
def variablePath? (name : String) : Option String :=
  let name := name.toList.map lowerCase
  if variablePrefix.isPrefixOf name then
    some (String.ofList (pointed (name.drop variablePrefix.length)))
  else none

/-- The value of a variable: a truth, a number or a text, whichever it reads as first. -/
def variableValue (text : String) : Value :=
  if upperCase text = "TRUE" then .truth true
  else if upperCase text = "FALSE" then .truth false
  else
    match Decimal.whole? text with
    | some n => .whole n
    | none =>
      match Decimal.fraction? text with
      | some x => .fraction x
      | none => .text text

/-- Paths and values of the variables that count, in their order. -/
def ofVariables (environment : List (String × String)) : List (String × Value) :=
  environment.filterMap fun v => (variablePath? v.1).map fun path => (path, variableValue v.2)

end Config

end DungeonScript
