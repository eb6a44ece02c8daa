import DungeonScript.Vocabulary

/-!
Verbs: what a script line can tell the game to do, with the opcode and keyword of
each. Two small classes matter to the reader of a script: the verbs that must be
known before anything else is read, and the verbs that open a condition block. A
third, the setup verbs, act at once wherever they stand.
-/

namespace DungeonScript

/-- What a script line can tell the game to do. -/
inductive Verb where
  | createParty | addToParty | addPartyToLevel | addCreatureToLevel | message | ifMeasure | endif
  | setHate | setGenerateSpeed | rem | startMoney | roomAvailable | creatureAvailable
  | magicAvailable | trapAvailable | research | computerPlayer | setTimer | ifActionPoint
  | addTunnellerToLevel | winGame | loseGame | setFlag | maxCreatures | nextCommandReusable
  | doorAvailable | displayObjective | displayInformation | addTunnellerPartyToLevel
  | addCreatureToPool | resetActionPoint | quickObjective | quickInformation
  | quickObjectiveWithPos | quickInformationWithPos | tutorialFlashButton | setCreatureMaxLevel
  | setMusic | setCreatureHealth | setCreatureStrength | setCreatureArmour | setCreatureFear
  | displayObjectiveWithPos | ifAvailable | setComputerGlobals | setComputerChecks
  | setComputerEvent | setComputerProcess | allyPlayers | deadCreaturesReturnToPool
  | displayInformationWithPos | bonusLevelTime | print | swapCreature | setCreatureTendencies
  | playMessage | addGoldToPlayer | revealMapRect | revealMapLocation | levelVersion
  | researchOrder | killCreature
  deriving Repr, DecidableEq

instance : Vocabulary Verb where
  all := [.createParty, .addToParty, .addPartyToLevel, .addCreatureToLevel, .message, .ifMeasure,
    .endif, .setHate, .setGenerateSpeed, .rem, .startMoney, .roomAvailable,
    .creatureAvailable, .magicAvailable, .trapAvailable, .research, .computerPlayer,
    .setTimer, .ifActionPoint, .addTunnellerToLevel, .winGame, .loseGame, .setFlag,
    .maxCreatures, .nextCommandReusable, .doorAvailable, .displayObjective,
    .displayInformation, .addTunnellerPartyToLevel, .addCreatureToPool, .resetActionPoint,
    .quickObjective, .quickInformation, .quickObjectiveWithPos, .quickInformationWithPos,
    .tutorialFlashButton, .setCreatureMaxLevel, .setMusic, .setCreatureHealth,
    .setCreatureStrength, .setCreatureArmour, .setCreatureFear, .displayObjectiveWithPos,
    .ifAvailable, .setComputerGlobals, .setComputerChecks, .setComputerEvent,
    .setComputerProcess, .allyPlayers, .deadCreaturesReturnToPool,
    .displayInformationWithPos, .bonusLevelTime, .print, .swapCreature,
    .setCreatureTendencies, .playMessage, .addGoldToPlayer, .revealMapRect,
    .revealMapLocation, .levelVersion, .researchOrder, .killCreature]
  entry
    | .createParty => ⟨1, "CreateParty", ["CREATE_PARTY"]⟩
    | .addToParty => ⟨2, "AddToParty", ["ADD_TO_PARTY"]⟩
    | .addPartyToLevel => ⟨3, "AddPartyToLevel", ["ADD_PARTY_TO_LEVEL"]⟩
    | .addCreatureToLevel => ⟨4, "AddCreatureToLevel", ["ADD_CREATURE_TO_LEVEL"]⟩
    | .message => ⟨5, "Message", ["MESSAGE"]⟩
    | .ifMeasure => ⟨6, "If", ["IF"]⟩
    | .endif => ⟨7, "Endif", ["ENDIF"]⟩
    | .setHate => ⟨8, "SetHate", ["SET_HATE"]⟩
    | .setGenerateSpeed => ⟨9, "SetGenerateSpeed", ["SET_GENERATE_SPEED"]⟩
    | .rem => ⟨10, "Rem", ["REM"]⟩
    | .startMoney => ⟨11, "StartMoney", ["START_MONEY"]⟩
    | .roomAvailable => ⟨12, "RoomAvailable", ["ROOM_AVAILABLE"]⟩
    | .creatureAvailable => ⟨13, "CreatureAvailable", ["CREATURE_AVAILABLE"]⟩
    | .magicAvailable => ⟨14, "MagicAvailable", ["MAGIC_AVAILABLE"]⟩
    | .trapAvailable => ⟨15, "TrapAvailable", ["TRAP_AVAILABLE"]⟩
    | .research => ⟨16, "Research", ["RESEARCH"]⟩
    | .computerPlayer => ⟨17, "ComputerPlayer", ["COMPUTER_PLAYER"]⟩
    | .setTimer => ⟨18, "SetTimer", ["SET_TIMER"]⟩
    | .ifActionPoint => ⟨19, "IfActionPoint", ["IF_ACTION_POINT"]⟩
    | .addTunnellerToLevel => ⟨20, "AddTunnellerToLevel", ["ADD_TUNNELLER_TO_LEVEL"]⟩
    | .winGame => ⟨21, "WinGame", ["WIN_GAME"]⟩
    | .loseGame => ⟨22, "LoseGame", ["LOSE_GAME"]⟩
    | .setFlag => ⟨25, "SetFlag", ["SET_FLAG"]⟩
    | .maxCreatures => ⟨26, "MaxCreatures", ["MAX_CREATURES"]⟩
    | .nextCommandReusable => ⟨27, "NextCommandReusable", ["NEXT_COMMAND_REUSABLE"]⟩
    | .doorAvailable => ⟨30, "DoorAvailable", ["DOOR_AVAILABLE"]⟩
    | .displayObjective => ⟨37, "DisplayObjective", ["DISPLAY_OBJECTIVE"]⟩
    | .displayInformation => ⟨38, "DisplayInformation", ["DISPLAY_INFORMATION"]⟩
    | .addTunnellerPartyToLevel => ⟨40, "AddTunnellerPartyToLevel", ["ADD_TUNNELLER_PARTY_TO_LEVEL"]⟩
    | .addCreatureToPool => ⟨41, "AddCreatureToPool", ["ADD_CREATURE_TO_POOL"]⟩
    | .resetActionPoint => ⟨42, "ResetActionPoint", ["RESET_ACTION_POINT"]⟩
    | .quickObjective => ⟨44, "QuickObjective", ["QUICK_OBJECTIVE"]⟩
    | .quickInformation => ⟨45, "QuickInformation", ["QUICK_INFORMATION"]⟩
    | .quickObjectiveWithPos => ⟨46, "QuickObjectiveWithPos", ["QUICK_OBJECTIVE_WITH_POS"]⟩
    | .quickInformationWithPos => ⟨47, "QuickInformationWithPos", ["QUICK_INFORMATION_WITH_POS"]⟩
    | .tutorialFlashButton => ⟨54, "TutorialFlashButton", ["TUTORIAL_FLASH_BUTTON"]⟩
    | .setCreatureMaxLevel => ⟨59, "SetCreatureMaxLevel", ["SET_CREATURE_MAX_LEVEL"]⟩
    | .setMusic => ⟨60, "SetMusic", ["SET_MUSIC"]⟩
    | .setCreatureHealth => ⟨61, "SetCreatureHealth", ["SET_CREATURE_HEALTH"]⟩
    | .setCreatureStrength => ⟨62, "SetCreatureStrength", ["SET_CREATURE_STRENGTH"]⟩
    | .setCreatureArmour => ⟨63, "SetCreatureArmour", ["SET_CREATURE_ARMOUR"]⟩
    | .setCreatureFear => ⟨64, "SetCreatureFear", ["SET_CREATURE_FEAR"]⟩
    | .displayObjectiveWithPos => ⟨65, "DisplayObjectiveWithPos", ["DISPLAY_OBJECTIVE_WITH_POS"]⟩
    | .ifAvailable => ⟨66, "IfAvailable", ["IF_AVAILABLE"]⟩
    | .setComputerGlobals => ⟨68, "SetComputerGlobals", ["SET_COMPUTER_GLOBALS"]⟩
    | .setComputerChecks => ⟨69, "SetComputerChecks", ["SET_COMPUTER_CHECKS"]⟩
    | .setComputerEvent => ⟨70, "SetComputerEvent", ["SET_COMPUTER_EVENT"]⟩
    | .setComputerProcess => ⟨71, "SetComputerProcess", ["SET_COMPUTER_PROCESS"]⟩
    | .allyPlayers => ⟨72, "AllyPlayers", ["ALLY_PLAYERS"]⟩
    | .deadCreaturesReturnToPool => ⟨73, "DeadCreaturesReturnToPool", ["DEAD_CREATURES_RETURN_TO_POOL"]⟩
    | .displayInformationWithPos => ⟨74, "DisplayInformationWithPos", ["DISPLAY_INFORMATION_WITH_POS"]⟩
    | .bonusLevelTime => ⟨75, "BonusLevelTime", ["BONUS_LEVEL_TIME"]⟩
    | .print => ⟨76, "Print", ["PRINT"]⟩
    | .swapCreature => ⟨77, "SwapCreature", ["SWAP_CREATURE"]⟩
    | .setCreatureTendencies => ⟨84, "SetCreatureTendencies", ["SET_CREATURE_TENDENCIES"]⟩
    | .playMessage => ⟨85, "PlayMessage", ["PLAY_MESSAGE"]⟩
    | .addGoldToPlayer => ⟨86, "AddGoldToPlayer", ["ADD_GOLD_TO_PLAYER"]⟩
    | .revealMapRect => ⟨87, "RevealMapRect", ["REVEAL_MAP_RECT"]⟩
    | .revealMapLocation => ⟨88, "RevealMapLocation", ["REVEAL_MAP_LOCATION"]⟩
    | .levelVersion => ⟨90, "LevelVersion", ["LEVEL_VERSION"]⟩
    | .researchOrder => ⟨91, "ResearchOrder", ["RESEARCH_ORDER"]⟩
    | .killCreature => ⟨92, "KillCreature", ["KILL_CREATURE"]⟩

namespace Verb

/-- Carried out by the pass that runs before the level is set up, and by no other. -/
def isPreloaded : Verb → Bool
  | swapCreature | levelVersion => true
  | _ => false

/-- Opens a condition block, which an `ENDIF` closes. -/
def opensCondition : Verb → Bool
  | ifMeasure | ifActionPoint | ifAvailable => true
  | _ => false

/-- Belongs outside of any condition. Inside one it still acts, with a warning. -/
def isSetupOnly : Verb → Bool
  | createParty | addToParty | startMoney | computerPlayer | setMusic
  | setComputerGlobals | setComputerChecks | setComputerEvent | setComputerProcess
  | swapCreature | levelVersion => true
  | _ => false

end Verb

end DungeonScript
