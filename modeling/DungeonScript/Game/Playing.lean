import DungeonScript.Game
import DungeonScript.Script.Turn

/-!
Playing a level: the world moves on by a turn, then the script has its turn. Once this
machine's player has won or lost, the script is not run any more, unless it is told to
go on.
-/

namespace DungeonScript

namespace Game

/-- Whether nothing is left to happen: the level is decided and the run ends with it. -/
def isOver (o : Options) (g : Game) : Bool := g.world.decided && !o.runAfterVictory

def advance (g : Game) : Logged Game := do
  let world ← g.world.advance
  return { g with world }

/-- The script has its turn, unless the game is over. -/
def tick (o : Options) (g : Game) : Logged Game :=
  if g.isOver o then pure g
  else do
    let (script, world) ← g.script.turn g.world
    return { g with script, world }

def playTurn (o : Options) (g : Game) : Logged Game := do
  let g ← g.advance
  g.tick o

def playTurns (o : Options) : Nat → Game → Logged Game
  | 0, g => pure g
  | n + 1, g => do
    let g ← g.playTurn o
    playTurns o n g

/-- At most this many turns, up to the one on which the game is over. -/
def playUntilOver (o : Options) : Nat → Game → Logged Game
  | 0, g => pure g
  | n + 1, g => do
    let g ← g.playTurn o
    if g.isOver o then return g
    else playUntilOver o n g

end Game

end DungeonScript
