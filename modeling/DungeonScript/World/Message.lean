import DungeonScript.Place
import DungeonScript.Text.Quoted

/-!
Messages: what the player at this machine has been shown or played.
-/

namespace DungeonScript

/-- One message to the player at this machine. -/
inductive Message where
  | objective (number : Int) (place : Place)
  | information (number : Int) (place : Place)
  | quickObjective (text : String) (place : Place)
  | quickInformation (index : Nat) (text : String) (place : Place)
  | speech (number : Int)
  | sound (number : Int)
  deriving Repr, DecidableEq

namespace Message

def field (name value : String) : String := name ++ ": " ++ value

/-- A listed message with its fields in braces. -/
def record (title : String) (fields : List String) : String :=
  title ++ " \x7b " ++ String.intercalate ", " fields ++ " \x7d"

def describe : Message → String
  | objective number place =>
    record "Objective" [field "message" (toString number), field "location" place.describe]
  | information number place =>
    record "Information" [field "message" (toString number), field "location" place.describe]
  | quickObjective text place =>
    record "QuickObjective" [field "text" (quoted text), field "location" place.describe]
  | quickInformation index text place =>
    record "QuickInformation" [field "index" (toString index), field "text" (quoted text),
      field "location" place.describe]
  | speech number => s!"Speech({number})"
  | sound number => s!"Sound({number})"

end Message

end DungeonScript
