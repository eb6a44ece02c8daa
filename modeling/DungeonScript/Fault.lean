import DungeonScript.Orders
import DungeonScript.Limits

/-!
Faults: why one script line is dropped. A fault is a cause; its wording is in
`Fault.message`. The bounded shelves of the level store are named here as well,
each with its limit, since running out of one is a fault.
-/

namespace DungeonScript

/-- Why the words of a line cannot be read. -/
inductive ScanFault where
  /-- `RANDOM` lacks its first or its second bound. -/
  | missingBound (second : Bool)
  /-- A minus sign without digits. -/
  | danglingMinus
  /-- An operator that needs an equals sign and has none. -/
  | incompleteOperator (sign : Char)
  /-- A quoted text that the line does not close. -/
  | unterminatedText
  deriving Repr, DecidableEq

namespace ScanFault

/-- The position of a bound of `RANDOM`, in words. -/
def ordinal (second : Bool) : String := if second then "second" else "first"

def message : ScanFault → String
  | missingBound second => s!"Invalid {ordinal second} argument for RANDOM command"
  | danglingMinus => "Unexpected '-' not followed by a number"
  | incompleteOperator sign => "Expected '=' after '" ++ String.singleton sign ++ "'"
  | unterminatedText => "Unterminated text string"

end ScanFault

/-- What a name on a script line was supposed to be. -/
inductive Lexicon where
  | creature | roomName | magic | trap | door
  | researchType | researchItem
  | variableName | availableItem | comparison
  | timer | flag
  | heading | memberObjective
  | newCreature | messageType | tendency | killOrder
  deriving Repr, DecidableEq

namespace Lexicon

def label : Lexicon → String
  | creature => "creature"
  | roomName => "room name"
  | magic => "magic"
  | trap => "trap"
  | door => "door"
  | researchType => "research type"
  | researchItem => "research item"
  | variableName => "variable name"
  | availableItem => "VARIABLE"
  | comparison => "comparison name"
  | timer => "timer"
  | flag => "flag"
  | heading => "heading objective"
  | memberObjective => "party member objective"
  | newCreature => "new creature"
  | messageType => "message type"
  | tendency => "tendency type"
  | killOrder => "creature selection criteria"

end Lexicon

/-- What a number on a script line was supposed to measure. -/
inductive Quantity where
  | creatureLevel | textNumber | copies | creatures | actionPoint | player
  | generationSpeed | quickMessage | poolCreatures | creatureStat | bonusTime | killCount
  deriving Repr, DecidableEq

namespace Quantity

def label : Quantity → String
  | creatureLevel => "creature level"
  | textNumber => "TEXT number"
  | copies => "number of copies"
  | creatures => "number of creatures"
  | actionPoint => "action point"
  | player => "player"
  | generationSpeed => "generation speed"
  | quickMessage => "quick message number"
  | poolCreatures => "number of creatures for pool"
  | creatureStat => "creature stat value"
  | bonusTime => "bonus time"
  | killCount => "creatures count"

end Quantity

/-- The bounded lists a level fills. -/
inductive Shelf where
  | conditions | spawns | tunnellers | effects | wins | losses | parties | research
  deriving Repr, DecidableEq

namespace Shelf

def label : Shelf → String
  | conditions => "conditions"
  | spawns => "ADD_CREATURE commands"
  | tunnellers => "ADD_TUNNELLER commands"
  | effects => "VALUEs"
  | wins => "WIN GAME conditions"
  | losses => "LOSE GAME conditions"
  | parties => "parties"
  | research => "RESEARCH ITEMS"

def limit : Shelf → Nat
  | conditions => conditionLimit
  | spawns => spawnLimit
  | tunnellers => tunnellerLimit
  | effects => effectLimit
  | wins | losses => verdictLimit
  | parties => partyLimit
  | research => researchLimit

end Shelf

/-- The lists of a computer player that a script can adjust by name. -/
inductive PlanSort where
  | check | event | process
  deriving Repr, DecidableEq

namespace PlanSort

def label : PlanSort → String
  | check => "check"
  | event => "event"
  | process => "process"

end PlanSort

/-- How a condition ends the level. -/
inductive Verdict where
  | win | lose
  deriving Repr, DecidableEq

namespace Verdict

/-- The wording of the command that registers the verdict. -/
def label : Verdict → String
  | win => "WIN GAME"
  | lose => "LOSE GAME"

end Verdict

/-- Why a script line is dropped. -/
inductive Fault where
  | scan (f : ScanFault)
  | invalidCommand (word : String) (levelVersion : Int)
  | notEnoughParameters (keyword : String)
  | unknownPlayer (name : String)
  | playerNotAllowed (name : String)
  | unknownName (expected : Lexicon) (name : String)
  | outOfRange (what : Quantity) (value : Int)
  | invalidLocation (name : String)
  | noActionPoint (number : Nat)
  | noHeroGate (number : Nat)
  | full (shelf : Shelf)
  | undefinedParty (name : String)
  | partyFull (name : String)
  | partyTooBig (name : String)
  | unexpectedEndif
  | noCondition (verdict : Verdict)
  | noPlan (sort : PlanSort) (name : String)
  | swapFailed (slot : Newcomer) (kind : Nat)
  deriving Repr, DecidableEq

namespace Fault

def message : Fault → String
  | scan f => f.message
  | invalidCommand word version => s!"Invalid command, '{word}' (lev ver {version})"
  | notEnoughParameters keyword => s!"Not enough parameters for \"{keyword}\""
  | unknownPlayer name => s!"invalid player name '{name}'"
  | playerNotAllowed name => s!"Player '{name}' can't be used here"
  | unknownName expected name => s!"Unknown {expected.label}, '{name}'"
  | outOfRange what value => s!"{what.label} {value} out of range"
  | invalidLocation name => s!"Invalid LOCATION = '{name}'"
  | noActionPoint n => s!"Non-existing Action Point, no {n}"
  | noHeroGate n => s!"Non-existing Hero Door, no {n}"
  | full shelf => s!"Too many {shelf.label} in script (limit is {shelf.limit})"
  | undefinedParty name => s!"Invalid Party '{name}'"
  | partyFull name => s!"Party '{name}' is full"
  | partyTooBig name => s!"Too many creatures in party '{name}' to add a tunneller"
  | unexpectedEndif => "Unexpected ENDIF"
  | noCondition verdict => s!"Command {verdict.label} found with no condition"
  | noPlan sort name => s!"No computer {sort.label} found called '{name}'"
  | swapFailed slot kind => s!"Couldn't swap creature {Vocabulary.title slot} <-> {kind}"

end Fault

end DungeonScript
