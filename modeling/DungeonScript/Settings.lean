import DungeonScript.Game

/-!
Settings of a run: the map, the player at this machine, who enters which action point
when, and for how long the game is played. `Settings.world` is the world they describe.
-/

namespace DungeonScript

/-- A numbered point of the map. -/
structure MapPoint where
  number : Nat
  coords : Int × Int
  deriving Repr, DecidableEq

/-- Settings of a run. -/
structure Settings where
  options : Options
  /-- How many turns are played. -/
  turns : Nat
  /-- The player at this machine. -/
  myPlayer : Nat
  network : Bool
  /-- Gold every keeper earns each turn. -/
  income : Int
  points : List MapPoint
  gates : List MapPoint
  activations : List Activation
  names : Names
  deriving Repr, DecidableEq

namespace Settings

/-- The settings of a run that sets nothing. -/
def usual : Settings where
  options := .usual
  turns := 1000
  myPlayer := 0
  network := false
  income := 0
  points := []
  gates := []
  activations := []
  names := .stock

instance : Inhabited Settings := ⟨usual⟩

/-- Schedules the entries into action points. An entry of a player that does not exist
    is noted and left out. -/
def scheduleAll : List Activation → World → Logged World
  | [], w => pure w
  | a :: rest, w =>
    if a.player < playerCount then scheduleAll rest (w.scheduleActivation a)
    else do
      Logged.note (.activationIgnored a.player a.turn)
      scheduleAll rest w

/-- The world before any point is put on its map. -/
def bareWorld (s : Settings) : World :=
  { World.fresh with
    myPlayer := s.myPlayer
    network := s.network
    income := s.income
    names := s.names }

def world (s : Settings) : Logged World :=
  let w := s.points.foldl (fun w p => w.addPoint p.number p.coords) s.bareWorld
  let w := s.gates.foldl (fun w p => w.addGate p.number p.coords) w
  scheduleAll s.activations w

end Settings

end DungeonScript
