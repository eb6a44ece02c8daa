/-!
Capacities. What a level script may hold, what its arguments may say, and how
many slots each table of the game has. Every other module takes its bounds from
here, so that a check and the storage behind it cannot name different numbers.
-/

namespace DungeonScript

/-- Conditions a level may hold, and so the deepest nesting of its blocks. -/
def conditionLimit : Nat := 48
/-- Stored creature and party spawns. -/
def spawnLimit : Nat := 48
/-- Stored tunneller spawns. -/
def tunnellerLimit : Nat := 16
/-- Stored effects. -/
def effectLimit : Nat := 64
/-- Conditions that win, and separately conditions that lose, a level. -/
def verdictLimit : Nat := 4
/-- Parties a script may define. -/
def partyLimit : Nat := 16
/-- Members of one party; a tunneller at its head takes one of these places. -/
def memberLimit : Nat := 8
/-- A party name keeps one character less than this. -/
def partyNameLength : Nat := 100
/-- Arguments one command may take. -/
def argumentLimit : Nat := 8

/-- Quick messages, numbered from 0. -/
abbrev quickTextCount : Nat := 50
/-- A quick message keeps one character less than this. -/
def quickTextLength : Nat := 1024
/-- Messages of the string table are numbered below this. -/
def stringCount : Int := 941

/-- The highest experience level, counted from 1. -/
def topLevel : Int := 10
/-- Creatures one spawn may not reach. -/
def creatureLimit : Int := 256
/-- Length of a research list at which `RESEARCH_ORDER` is refused. -/
def researchLimit : Nat := 34

/-- Player slots: four keepers, then the heroes. -/
abbrev playerCount : Nat := 5
/-- Turn timers of each player. -/
abbrev timerCount : Nat := 8
/-- Script flags of each player. -/
abbrev flagCount : Nat := 8

/-- Creature types the game keeps tables for. -/
abbrev creatureTypes : Nat := 32
/-- Room types. -/
abbrev roomTypes : Nat := 17
/-- Trap types. -/
abbrev trapTypes : Nat := 7
/-- Door types. -/
abbrev doorTypes : Nat := 5
/-- Keeper powers. -/
abbrev powerTypes : Nat := 20

/-! No table of the game is empty. -/

theorem quickTextCount_pos : 0 < quickTextCount := by decide
theorem playerCount_pos : 0 < playerCount := by decide
theorem timerCount_pos : 0 < timerCount := by decide
theorem flagCount_pos : 0 < flagCount := by decide
theorem creatureTypes_pos : 0 < creatureTypes := by decide
theorem roomTypes_pos : 0 < roomTypes := by decide
theorem trapTypes_pos : 0 < trapTypes := by decide
theorem doorTypes_pos : 0 < doorTypes := by decide
theorem powerTypes_pos : 0 < powerTypes := by decide

end DungeonScript
