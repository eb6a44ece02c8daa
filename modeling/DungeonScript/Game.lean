import DungeonScript.Progress
import DungeonScript.Reading
import DungeonScript.World

/-!
A game: a level script together with the world it is run in, the dice its `RANDOM`
arguments are rolled with, and the progress of its reading.
-/

namespace DungeonScript

/-- How a script is run. -/
structure Options where
  /-- Starts the dice. -/
  seed : UInt32
  /-- Goes on after this machine's player has won or lost. -/
  runAfterVictory : Bool
  deriving Repr, DecidableEq

/-- Seed 1, and no more turns once the level is decided. -/
def Options.usual : Options := ⟨1, false⟩

/-- A script and the world it is run in. -/
structure Game where
  script : Script
  world : World
  dice : Dice
  progress : Progress
  deriving Repr, DecidableEq

namespace Game

def fresh (o : Options) (w : World) : Game := ⟨.empty, w, .ofSeed o.seed, .start⟩

instance : Inhabited Game := ⟨fresh .usual .fresh⟩

def report (r : Remark) (g : Game) : Logged Game := do
  let progress ← g.progress.report r
  return { g with progress }

/-- Carries out what was said while a line was read: remarks go on record, cautions
    into the journal, and quick texts into the store. -/
def hear : List Aside → Game → Logged Game
  | [], g => pure g
  | .remark r :: rest, g => do
    let g ← g.report r
    hear rest g
  | .caution c :: rest, g => do
    Logged.note (.caution c)
    hear rest g
  | .quickText index text :: rest, g =>
    hear rest { g with script := g.script.setQuickText index text }

end Game

end DungeonScript
