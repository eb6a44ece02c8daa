import DungeonScript.Vocabulary

/-!
Orders: the small vocabularies of the commands that send, convert, replace or kill
creatures and that play messages.
-/

namespace DungeonScript

/-- Where a tunneller digs towards. -/
inductive Heading where
  | actionPoint | dungeon | dungeonHeart | appropriateDungeon
  deriving Repr, DecidableEq

instance : Vocabulary Heading where
  all := [.actionPoint, .dungeon, .dungeonHeart, .appropriateDungeon]
  entry
    | .actionPoint => ⟨1, "ActionPoint", ["ACTION_POINT"]⟩
    | .dungeon => ⟨2, "Dungeon", ["DUNGEON"]⟩
    | .dungeonHeart => ⟨3, "DungeonHeart", ["DUNGEON_HEART"]⟩
    | .appropriateDungeon => ⟨4, "AppropriateDungeon", ["APPROPIATE_DUNGEON", "APPROPRIATE_DUNGEON"]⟩

/-- What a hero party sets out to do. -/
inductive Objective where
  | attackRooms | attackEnemies | attackDungeonHeart | stealGold | stealSpells | defendParty
  deriving Repr, DecidableEq

instance : Vocabulary Objective where
  all := [.attackRooms, .attackEnemies, .attackDungeonHeart, .stealGold, .stealSpells,
    .defendParty]
  entry
    | .attackRooms => ⟨1, "AttackRooms", ["ATTACK_ROOMS"]⟩
    | .attackEnemies => ⟨2, "AttackEnemies", ["ATTACK_ENEMIES"]⟩
    | .attackDungeonHeart => ⟨3, "AttackDungeonHeart", ["ATTACK_DUNGEON_HEART"]⟩
    | .stealGold => ⟨4, "StealGold", ["STEAL_GOLD"]⟩
    | .stealSpells => ⟨5, "StealSpells", ["STEAL_SPELLS"]⟩
    | .defendParty => ⟨6, "DefendParty", ["DEFEND_PARTY"]⟩

/-- How a played message reaches the player. -/
inductive Channel where
  | speech | sound
  deriving Repr, DecidableEq

instance : Vocabulary Channel where
  all := [.speech, .sound]
  entry
    | .speech => ⟨1, "Speech", ["SPEECH"]⟩
    | .sound => ⟨2, "Sound", ["SOUND"]⟩

/-- How the creatures of a player treat a beaten enemy or a lost fight. -/
inductive Tendency where
  | imprison | flee
  deriving Repr, DecidableEq

instance : Vocabulary Tendency where
  all := [.imprison, .flee]
  entry
    | .imprison => ⟨1, "Imprison", ["IMPRISON"]⟩
    | .flee => ⟨2, "Flee", ["FLEE"]⟩

/-- The table a research item is taken from. -/
inductive ResearchKind where
  | magic | room | creature
  deriving Repr, DecidableEq

instance : Vocabulary ResearchKind where
  all := [.magic, .room, .creature]
  entry
    | .magic => ⟨1, "Magic", ["MAGIC"]⟩
    | .room => ⟨2, "Room", ["ROOM"]⟩
    | .creature => ⟨3, "Creature", ["CREATURE"]⟩

/-- The two creature kinds a level may replace. -/
inductive Newcomer where
  | newCreatureA | newCreatureB
  deriving Repr, DecidableEq

instance : Vocabulary Newcomer where
  all := [.newCreatureA, .newCreatureB]
  entry
    | .newCreatureA => ⟨1, "NewCreatureA", ["NEW_CREATURE_A"]⟩
    | .newCreatureB => ⟨2, "NewCreatureB", ["NEW_CREATURE_B"]⟩

/-- Which creatures are killed first. -/
inductive KillOrder where
  | anywhere | mostExperienced | mostExpWandering | mostExpWorking | mostExpFighting
  | leastExperienced | leastExpWandering | leastExpWorking | leastExpFighting
  deriving Repr, DecidableEq

instance : Vocabulary KillOrder where
  all := [.anywhere, .mostExperienced, .mostExpWandering, .mostExpWorking, .mostExpFighting,
    .leastExperienced, .leastExpWandering, .leastExpWorking, .leastExpFighting]
  entry
    | .anywhere => ⟨0, "Anywhere", ["ANYWHERE"]⟩
    | .mostExperienced => ⟨1, "MostExperienced", ["MOST_EXPERIENCED"]⟩
    | .mostExpWandering => ⟨2, "MostExpWandering", ["MOST_EXP_WANDERING"]⟩
    | .mostExpWorking => ⟨3, "MostExpWorking", ["MOST_EXP_WORKING"]⟩
    | .mostExpFighting => ⟨4, "MostExpFighting", ["MOST_EXP_FIGHTING"]⟩
    | .leastExperienced => ⟨5, "LeastExperienced", ["LEAST_EXPERIENCED"]⟩
    | .leastExpWandering => ⟨6, "LeastExpWandering", ["LEAST_EXP_WANDERING"]⟩
    | .leastExpWorking => ⟨7, "LeastExpWorking", ["LEAST_EXP_WORKING"]⟩
    | .leastExpFighting => ⟨8, "LeastExpFighting", ["LEAST_EXP_FIGHTING"]⟩

end DungeonScript
