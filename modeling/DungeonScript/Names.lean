import DungeonScript.Limits
import DungeonScript.Orders

/-!
Names of items. Creatures, rooms, doors, traps and powers go by numbers in the game
and by names in scripts. A table may hold any names and numbers: the first entry
that matches decides. The default tables are the stock set, numbered from 1.
-/

namespace DungeonScript

/-- Names and the numbers they stand for. -/
structure NameTable where
  entries : List (String × Nat)
  deriving Repr, DecidableEq, Inhabited

namespace NameTable

/-- The names numbered in order from 1. -/
def numbered (names : List String) : NameTable := ⟨names.zipIdx 1⟩

def find? (t : NameTable) (name : String) : Option Nat :=
  (t.entries.find? fun e => sameWord e.1 name).map (·.2)

def nameOf? (t : NameTable) (id : Nat) : Option String :=
  (t.entries.find? fun e => e.2 == id).map (·.1)

def size (t : NameTable) : Nat := t.entries.length

def isEmpty (t : NameTable) : Bool := t.entries.isEmpty

end NameTable

/-- The tables a script's names are looked up in. -/
structure Names where
  creatures : NameTable
  rooms : NameTable
  doors : NameTable
  traps : NameTable
  powers : NameTable
  deriving Repr, DecidableEq

namespace Names

def stock : Names where
  creatures := .numbered
    ["WIZARD", "BARBARIAN", "ARCHER", "MONK", "DWARFA", "KNIGHT", "AVATAR", "TUNNELLER", "WITCH",
     "GIANT", "FAIRY", "THIEF", "SAMURAI", "HORNY", "SKELETON", "TROLL", "DRAGON", "DEMONSPAWN",
     "FLY", "DARK_MISTRESS", "SORCEROR", "BILE_DEMON", "IMP", "BUG", "VAMPIRE", "SPIDER",
     "HELL_HOUND", "GHOST", "TENTACLE", "ORC", "FLOATING_SPIRIT"]
  rooms := .numbered
    ["ENTRANCE", "TREASURE", "RESEARCH", "PRISON", "TORTURE", "TRAINING", "DUNGEON_HEART",
     "WORKSHOP", "SCAVENGER", "TEMPLE", "GRAVEYARD", "BARRACKS", "GARDEN", "LAIR", "BRIDGE",
     "GUARD_POST"]
  doors := .numbered ["WOOD", "BRACED", "STEEL", "MAGIC"]
  traps := .numbered ["BOULDER", "ALARM", "POISON_GAS", "LIGHTNING", "WORD_OF_POWER", "LAVA"]
  powers := .numbered
    ["POWER_HAND", "POWER_IMP", "POWER_OBEY", "POWER_SLAP", "POWER_SIGHT", "POWER_CALL_TO_ARMS",
     "POWER_CAVE_IN", "POWER_HEAL_CREATURE", "POWER_HOLD_AUDIENCE", "POWER_LIGHTNING",
     "POWER_SPEED", "POWER_PROTECT", "POWER_CONCEAL", "POWER_DISEASE", "POWER_CHICKEN",
     "POWER_DESTROY_WALLS", "POWER_TIME_BOMB", "POWER_POSSESS", "POWER_ARMAGEDDON"]

instance : Inhabited Names := ⟨stock⟩

/-- The number of a research item, in the table that its kind selects. -/
def researchItem? (n : Names) (kind : ResearchKind) (name : String) : Option Nat :=
  match kind with
  | .magic => n.powers.find? name
  | .room => n.rooms.find? name
  | .creature => n.creatures.find? name

end Names

/-- The slot that a stem and one digit name, if there is such a slot. -/
def numberedSlot? (stem : List Char) (count : Nat) (name : String) : Option (Fin count) :=
  let cs := (upperCase name).toList
  match stem.isPrefixOf cs, cs.drop stem.length with
  | true, [digit] =>
    if h : digit.isDigit ∧ digit.toNat - '0'.toNat < count then some ⟨_, h.2⟩ else none
  | _, _ => none

def timerSlot? (name : String) : Option (Fin timerCount) := numberedSlot? "TIMER".toList _ name

def flagSlot? (name : String) : Option (Fin flagCount) := numberedSlot? "FLAG".toList _ name

end DungeonScript
