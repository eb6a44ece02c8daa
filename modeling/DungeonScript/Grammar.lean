import DungeonScript.Verb
import DungeonScript.Limits

/-!
The two grammars. A grammar is a table of keywords, each with the arguments it takes
and the verb it stands for. The classic grammar is in force while the level version
is 0 or less, the extended one above. The classic grammar is the extended one with
some keywords left out and three of them read differently (`Usage.classic?`).
-/

namespace DungeonScript

/-- How an argument is taken from the line. -/
inductive Argument where
  /-- As it is written: a name, a place or a text. -/
  | word
  /-- Read as a number. -/
  | number
  deriving Repr, DecidableEq

/-- One keyword of a grammar. -/
structure Usage where
  keyword : String
  arguments : List Argument
  verb : Verb
  deriving Repr, DecidableEq

namespace Usage

/-- How many arguments are read from the line. -/
def argumentCount (u : Usage) : Nat := min u.arguments.length argumentLimit

def requiredCount (u : Usage) : Nat := u.arguments.length

end Usage

namespace Grammar

open Argument in
/-- The grammar of level versions above 0. -/
def extended : List Usage := [
  ⟨"CREATE_PARTY", [word], .createParty⟩,
  ⟨"ADD_TO_PARTY", [word, word, number, number, word, number], .addToParty⟩,
  ⟨"ADD_PARTY_TO_LEVEL", [word, word, word, number], .addPartyToLevel⟩,
  ⟨"ADD_CREATURE_TO_LEVEL", [word, word, word, number, number, number], .addCreatureToLevel⟩,
  ⟨"IF", [word, word, word, number], .ifMeasure⟩,
  ⟨"IF_ACTION_POINT", [number, word], .ifActionPoint⟩,
  ⟨"ENDIF", [], .endif⟩,
  ⟨"SET_HATE", [number, number, number], .setHate⟩,
  ⟨"SET_GENERATE_SPEED", [number], .setGenerateSpeed⟩,
  ⟨"REM", [], .rem⟩,
  ⟨"START_MONEY", [word, number], .startMoney⟩,
  ⟨"ROOM_AVAILABLE", [word, word, number, number], .roomAvailable⟩,
  ⟨"CREATURE_AVAILABLE", [word, word, number, number], .creatureAvailable⟩,
  ⟨"MAGIC_AVAILABLE", [word, word, number, number], .magicAvailable⟩,
  ⟨"TRAP_AVAILABLE", [word, word, number, number], .trapAvailable⟩,
  ⟨"RESEARCH", [word, word, word, number], .research⟩,
  ⟨"RESEARCH_ORDER", [word, word, word, number], .researchOrder⟩,
  ⟨"COMPUTER_PLAYER", [word, number], .computerPlayer⟩,
  ⟨"SET_TIMER", [word, word], .setTimer⟩,
  ⟨"ADD_TUNNELLER_TO_LEVEL", [word, word, word, number, number, number], .addTunnellerToLevel⟩,
  ⟨"WIN_GAME", [], .winGame⟩,
  ⟨"LOSE_GAME", [], .loseGame⟩,
  ⟨"SET_FLAG", [word, word, number], .setFlag⟩,
  ⟨"MAX_CREATURES", [word, number], .maxCreatures⟩,
  ⟨"NEXT_COMMAND_REUSABLE", [], .nextCommandReusable⟩,
  ⟨"DOOR_AVAILABLE", [word, word, number, number], .doorAvailable⟩,
  ⟨"DISPLAY_OBJECTIVE", [number, word], .displayObjective⟩,
  ⟨"DISPLAY_OBJECTIVE_WITH_POS", [number, number, number], .displayObjectiveWithPos⟩,
  ⟨"DISPLAY_INFORMATION", [number, word], .displayInformation⟩,
  ⟨"DISPLAY_INFORMATION_WITH_POS", [number, number, number], .displayInformationWithPos⟩,
  ⟨"ADD_TUNNELLER_PARTY_TO_LEVEL", [word, word, word, word, number, number, number], .addTunnellerPartyToLevel⟩,
  ⟨"ADD_CREATURE_TO_POOL", [word, number], .addCreatureToPool⟩,
  ⟨"RESET_ACTION_POINT", [number], .resetActionPoint⟩,
  ⟨"SET_CREATURE_MAX_LEVEL", [word, word, number], .setCreatureMaxLevel⟩,
  ⟨"SET_MUSIC", [number], .setMusic⟩,
  ⟨"TUTORIAL_FLASH_BUTTON", [number, number], .tutorialFlashButton⟩,
  ⟨"SET_CREATURE_STRENGTH", [word, number], .setCreatureStrength⟩,
  ⟨"SET_CREATURE_HEALTH", [word, number], .setCreatureHealth⟩,
  ⟨"SET_CREATURE_ARMOUR", [word, number], .setCreatureArmour⟩,
  ⟨"SET_CREATURE_FEAR", [word, number], .setCreatureFear⟩,
  ⟨"IF_AVAILABLE", [word, word, word, number], .ifAvailable⟩,
  ⟨"SET_COMPUTER_GLOBALS", [word, number, number, number, number, number, number], .setComputerGlobals⟩,
  ⟨"SET_COMPUTER_CHECKS", [word, word, number, number, number, number, number], .setComputerChecks⟩,
  ⟨"SET_COMPUTER_EVENT", [word, word, number, number], .setComputerEvent⟩,
  ⟨"SET_COMPUTER_PROCESS", [word, word, number, number, number, number, number], .setComputerProcess⟩,
  ⟨"ALLY_PLAYERS", [word, word], .allyPlayers⟩,
  ⟨"DEAD_CREATURES_RETURN_TO_POOL", [number], .deadCreaturesReturnToPool⟩,
  ⟨"BONUS_LEVEL_TIME", [number], .bonusLevelTime⟩,
  ⟨"QUICK_OBJECTIVE", [number, word, word], .quickObjective⟩,
  ⟨"QUICK_INFORMATION", [number, word, word], .quickInformation⟩,
  ⟨"QUICK_OBJECTIVE_WITH_POS", [number, word, number, number], .quickObjectiveWithPos⟩,
  ⟨"QUICK_INFORMATION_WITH_POS", [number, word, number, number], .quickInformationWithPos⟩,
  ⟨"SWAP_CREATURE", [word, word], .swapCreature⟩,
  ⟨"PRINT", [word], .print⟩,
  ⟨"MESSAGE", [word], .message⟩,
  ⟨"PLAY_MESSAGE", [word, word, number], .playMessage⟩,
  ⟨"ADD_GOLD_TO_PLAYER", [word, number], .addGoldToPlayer⟩,
  ⟨"SET_CREATURE_TENDENCIES", [word, word, number], .setCreatureTendencies⟩,
  ⟨"REVEAL_MAP_RECT", [word, number, number, number, number], .revealMapRect⟩,
  ⟨"REVEAL_MAP_LOCATION", [word, word, number], .revealMapLocation⟩,
  ⟨"LEVEL_VERSION", [number], .levelVersion⟩,
  ⟨"KILL_CREATURE", [word, word, word, number], .killCreature⟩]

end Grammar

/-- The classic reading of an extended keyword, if it existed then. -/
def Usage.classic? (u : Usage) : Option Usage :=
  match u.verb with
  | .research => some { u with verb := .researchOrder }
  | .displayInformation => some { u with arguments := [.number] }
  | .quickInformation => some { u with arguments := [.number, .word] }
  | .researchOrder | .quickObjectiveWithPos | .quickInformationWithPos | .playMessage
  | .addGoldToPlayer | .setCreatureTendencies | .revealMapRect | .revealMapLocation
  | .killCreature => none
  | _ => some u

namespace Grammar

/-- The grammar of level versions up to 0. -/
def classic : List Usage := extended.filterMap Usage.classic?

def ofVersion (levelVersion : Int) : List Usage := if 0 < levelVersion then extended else classic

/-- The entry of a keyword, written in upper case, at a level version. -/
def find? (levelVersion : Int) (keyword : String) : Option Usage :=
  (ofVersion levelVersion).find? (·.keyword == keyword)

/-- The keyword of a verb in the extended grammar. -/
def keywordOf? (v : Verb) : Option String := (extended.find? (·.verb == v)).map (·.keyword)

end Grammar

/-- The level version of a script that does not name one. -/
def defaultLevelVersion : Int := 0

end DungeonScript
