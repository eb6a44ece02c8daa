import DungeonScript.Vocabulary

/-!
Measures and comparisons: the left side and the middle of an `IF`. Some measures
have no keyword. A creature name, a room name, a timer, a flag or a door in an
`IF` stands for one of them, and `IF_AVAILABLE` reads the others.
-/

namespace DungeonScript

/-- A quantity of one player that a condition can compare. -/
inductive Measure where
  | money | gameTurn | breakIn | creatureNum | totalImps | totalCreatures | totalResearch
  | totalDoors | totalArea | totalCreaturesLeft | creaturesAnnoyed | battlesLost | battlesWon
  | roomsDestroyed | spellsStolen | timesBrokenInto | goldPotsStolen | timer | dungeonDestroyed
  | totalGoldMined | flag | roomSlabs | doorsDestroyed | creaturesScavengedLost
  | creaturesScavengedGained | availableMagic | availableTrap | availableDoor | availableRoom
  | allDungeonsDestroyed | doorNum
  deriving Repr, DecidableEq

instance : Vocabulary Measure where
  all := [.money, .gameTurn, .breakIn, .creatureNum, .totalImps, .totalCreatures, .totalResearch,
    .totalDoors, .totalArea, .totalCreaturesLeft, .creaturesAnnoyed, .battlesLost,
    .battlesWon, .roomsDestroyed, .spellsStolen, .timesBrokenInto, .goldPotsStolen, .timer,
    .dungeonDestroyed, .totalGoldMined, .flag, .roomSlabs, .doorsDestroyed,
    .creaturesScavengedLost, .creaturesScavengedGained, .availableMagic, .availableTrap,
    .availableDoor, .availableRoom, .allDungeonsDestroyed, .doorNum]
  entry
    | .money => ⟨1, "Money", ["MONEY"]⟩
    | .gameTurn => ⟨5, "GameTurn", ["GAME_TURN"]⟩
    | .breakIn => ⟨6, "BreakIn", ["BREAK_IN"]⟩
    | .creatureNum => ⟨7, "CreatureNum", []⟩
    | .totalImps => ⟨8, "TotalImps", ["TOTAL_IMPS"]⟩
    | .totalCreatures => ⟨9, "TotalCreatures", ["TOTAL_CREATURES"]⟩
    | .totalResearch => ⟨10, "TotalResearch", ["TOTAL_RESEARCH"]⟩
    | .totalDoors => ⟨11, "TotalDoors", ["TOTAL_DOORS"]⟩
    | .totalArea => ⟨12, "TotalArea", ["TOTAL_AREA"]⟩
    | .totalCreaturesLeft => ⟨13, "TotalCreaturesLeft", ["TOTAL_CREATURES_LEFT"]⟩
    | .creaturesAnnoyed => ⟨14, "CreaturesAnnoyed", ["CREATURES_ANNOYED"]⟩
    | .battlesLost => ⟨15, "BattlesLost", ["BATTLES_LOST"]⟩
    | .battlesWon => ⟨16, "BattlesWon", ["BATTLES_WON"]⟩
    | .roomsDestroyed => ⟨17, "RoomsDestroyed", ["ROOMS_DESTROYED"]⟩
    | .spellsStolen => ⟨18, "SpellsStolen", ["SPELLS_STOLEN"]⟩
    | .timesBrokenInto => ⟨19, "TimesBrokenInto", ["TIMES_BROKEN_INTO"]⟩
    | .goldPotsStolen => ⟨20, "GoldPotsStolen", ["GOLD_POTS_STOLEN"]⟩
    | .timer => ⟨21, "Timer", []⟩
    | .dungeonDestroyed => ⟨22, "DungeonDestroyed", ["DUNGEON_DESTROYED"]⟩
    | .totalGoldMined => ⟨24, "TotalGoldMined", ["TOTAL_GOLD_MINED"]⟩
    | .flag => ⟨25, "Flag", []⟩
    | .roomSlabs => ⟨26, "RoomSlabs", []⟩
    | .doorsDestroyed => ⟨27, "DoorsDestroyed", ["DOORS_DESTROYED"]⟩
    | .creaturesScavengedLost => ⟨28, "CreaturesScavengedLost", ["CREATURES_SCAVENGED_LOST"]⟩
    | .creaturesScavengedGained => ⟨29, "CreaturesScavengedGained", ["CREATURES_SCAVENGED_GAINED"]⟩
    | .availableMagic => ⟨30, "AvailableMagic", []⟩
    | .availableTrap => ⟨31, "AvailableTrap", []⟩
    | .availableDoor => ⟨32, "AvailableDoor", []⟩
    | .availableRoom => ⟨33, "AvailableRoom", []⟩
    | .allDungeonsDestroyed => ⟨34, "AllDungeonsDestroyed", ["ALL_DUNGEONS_DESTROYED"]⟩
    | .doorNum => ⟨35, "DoorNum", []⟩

/-- How a condition compares. -/
inductive Comparison where
  | equal | notEqual | less | greater | lessEqual | greaterEqual
  deriving Repr, DecidableEq

instance : Vocabulary Comparison where
  all := [.equal, .notEqual, .less, .greater, .lessEqual, .greaterEqual]
  entry
    | .equal => ⟨1, "Equal", ["=="]⟩
    | .notEqual => ⟨2, "NotEqual", ["!="]⟩
    | .less => ⟨3, "Less", ["<"]⟩
    | .greater => ⟨4, "Greater", [">"]⟩
    | .lessEqual => ⟨5, "LessEqual", ["<="]⟩
    | .greaterEqual => ⟨6, "GreaterEqual", [">="]⟩

namespace Measure

/-- Reads one slot of a table (a creature kind, timer, flag, room, door, trap or
    power) rather than a single number. -/
def isIndexed : Measure → Bool
  | creatureNum | timer | flag | roomSlabs | availableMagic | availableTrap
  | availableDoor | availableRoom | doorNum => true
  | _ => false

end Measure

namespace Comparison

/-- Whether `a` stands in this relation to `b`. -/
def holds (c : Comparison) (a b : Int) : Bool :=
  match c with
  | equal => a == b
  | notEqual => a != b
  | less => decide (a < b)
  | greater => decide (b < a)
  | lessEqual => decide (a ≤ b)
  | greaterEqual => decide (b ≤ a)

end Comparison

end DungeonScript
