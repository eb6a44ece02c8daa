import DungeonScript.World.Groups
import DungeonScript.Script

/-!
Measuring the world: what a condition reads. Each measure of a player is one reading
of that player's dungeon. A condition on several players asks them in order and stops
at the first who satisfies it.
-/

namespace DungeonScript

namespace World

/-- Whether the hearts of all keepers but this player are destroyed. -/
def othersDestroyed (w : World) (p : Player) : Bool :=
  keepers.all fun q => q == p || (w.dungeon q).heartDestroyed

/-- Turns since a timer was set, 0 while it is idle. -/
def timerTurns (w : World) (t : TurnTimer) : Int :=
  if t.running then signedCount w.turn - signedCount t.started else 0

def truth (b : Bool) : Int := if b then 1 else 0

def measure (w : World) (p : Player) (what : Measure) (index : Nat) : Int :=
  let d := w.dungeon p
  match what with
  | .money => d.gold
  | .gameTurn => signedCount w.turn
  | .breakIn => d.lastBreakIn
  | .totalImps => d.diggers
  | .totalCreatures => d.creatures - d.uncounted
  | .totalResearch => d.researchPoints.tdiv 256
  | .totalDoors => d.doors
  | .totalArea => d.area
  | .totalCreaturesLeft => d.creaturesLeft
  | .creaturesAnnoyed => d.annoyed
  | .battlesLost => d.battlesLost
  | .battlesWon => d.battlesWon
  | .roomsDestroyed => d.roomsDestroyed
  | .spellsStolen => d.spellsStolen
  | .timesBrokenInto => d.timesBrokenInto
  | .goldPotsStolen => d.goldPotsStolen
  | .dungeonDestroyed => truth d.heartDestroyed
  | .allDungeonsDestroyed => truth (w.othersDestroyed p)
  | .totalGoldMined => d.goldMined
  | .doorsDestroyed => d.doorsDestroyed
  | .creaturesScavengedLost => d.scavengedLost
  | .creaturesScavengedGained => d.scavengedGained
  | .creatureNum => if index = diggerKind p then d.diggers else w.countKind p index
  | .timer => w.timerTurns (d.timers.get (slotOf timerCount_pos index))
  | .flag => d.flags.get (slotOf flagCount_pos index)
  | .roomSlabs => ((w.realm p).slabs.get? index).getD 0
  | .doorNum => ((w.realm p).doors.get? index).getD 0
  | .availableMagic => d.powerLevel.get (slotOf powerTypes_pos index)
  | .availableTrap => d.trapAmount.get (slotOf trapTypes_pos index)
  | .availableDoor => d.doorAmount.get (slotOf doorTypes_pos index)
  | .availableRoom => d.roomBuildable.get (slotOf roomTypes_pos index)

/-- The world after more readings of dungeons. -/
def countReadings (w : World) (n : Nat) : World := { w with readings := w.readings + n }

/-- One measure of a player, and the world that has counted the reading. -/
def read (w : World) (p : Player) (what : Measure) (index : Nat) : Int × World :=
  (w.measure p what index, w.countReadings 1)

def satisfies (w : World) (t : Test) (p : Player) : Bool :=
  match t with
  | .measure what index comparison value => comparison.holds (w.measure p what index) value
  | .entered number => w.enteredBy number p

/-- How many readings it takes to ask one player. -/
def readingsPerPlayer : Test → Nat
  | .measure _ _ _ _ => 1
  | .entered _ => 0

/-- Whether some player satisfies a test, and the readings taken up to the first who
    does. -/
def ask (w : World) (t : Test) : List Player → Bool × Nat
  | [] => (false, 0)
  | p :: rest =>
    if w.satisfies t p then (true, readingsPerPlayer t)
    else
      let r := w.ask t rest
      (r.1, readingsPerPlayer t + r.2)

end World

end DungeonScript
