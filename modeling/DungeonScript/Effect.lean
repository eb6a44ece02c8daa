import DungeonScript.Fault
import DungeonScript.Place
import DungeonScript.Player

/-!
Effects and setup orders. An effect is a change to the game that a script line asks
for; it is carried out at once, or stored and carried out when its condition is met.
A setup order prepares the level and is never stored.
-/

namespace DungeonScript

/-- The statistics of a creature kind that a script can set. -/
inductive Stat where
  | health | strength | armour | fear
  deriving Repr, DecidableEq

/-- The lists of things a player can be given. -/
inductive Stock where
  | room | creature | magic | trap | door
  deriving Repr, DecidableEq

/-- A change to the game. -/
inductive Effect where
  | setHate (players : Selector) (enemy hate : Int)
  | setGenerateSpeed (turns : Int)
  /-- Makes an item of a stock available. The two numbers are, for a trap or door,
      whether it can be built and how many there are; otherwise whether it can be
      found and whether it can be used. -/
  | available (players : Selector) (stock : Stock) (item : Nat) (first second : Int)
  | research (players : Selector) (kind : ResearchKind) (item : Nat) (amount : Int)
  | researchOrder (players : Selector) (kind : ResearchKind) (item : Nat) (amount : Int)
  | setTimer (players : Selector) (timer : Nat)
  | setFlag (players : Selector) (flag : Nat) (value : Int)
  | maxCreatures (players : Selector) (count : Int)
  | displayObjective (message : Int) (place : Place) (pos : Subtile)
  | displayInformation (message : Int) (place : Place) (pos : Subtile)
  | quickObjective (index : Nat) (place : Place) (pos : Subtile)
  | quickInformation (index : Nat) (place : Place) (pos : Subtile)
  | addToPool (kind : Nat) (amount : Int)
  | resetActionPoint (number : Nat)
  | flashButton (button duration : Int)
  /-- The level counts from 0 and may lie outside the levels there are. -/
  | setMaxLevel (players : Selector) (kind : Nat) (level : Int)
  | setStat (kind : Nat) (stat : Stat) (value : Int)
  | ally (a b : Nat)
  | deadReturnToPool (on : Bool)
  | bonusTime (turns : Int)
  | playMessage (players : Selector) (channel : Channel) (message : Int)
  | addGold (players : Selector) (amount : Int)
  | setTendency (players : Selector) (tendency : Tendency) (value : Int)
  | revealRect (players : Selector) (x y width height : Int)
  | revealPlace (players : Selector) (place : Place) (range : Int)
  | kill (players : Selector) (kind : Nat) (order : KillOrder) (count : Int)
  deriving Repr, DecidableEq

/-- A preparation of the level. -/
inductive Setup where
  | startMoney (players : Selector) (amount : Int)
  | computerPlayer (players : Selector) (model : Int)
  | music (track : Int)
  | computerGlobals (players : Selector) (values : List Int)
  /-- Sets the numbers of every plan of the name, in any case. -/
  | computerPlan (sort : PlanSort) (players : Selector) (name : String) (values : List Int)
  | swapCreature (slot : Newcomer) (kind : Nat)
  deriving Repr, DecidableEq

end DungeonScript
