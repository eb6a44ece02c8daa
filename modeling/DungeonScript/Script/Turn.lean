import DungeonScript.Script.Sweep
import DungeonScript.World.Spawning
import DungeonScript.World.Changing

/-!
One turn of a script. First every condition is asked again; then the stored spawns,
tunnellers and effects that are due fire, in this order and each list in the order of
registration; then the level may be won or lost. What is due is settled by the sweep:
no entry that fires can change it within the turn.
-/

namespace DungeonScript

namespace Gated

variable {α : Type}

/-- Whether the entry fires, the conditions being as they are. -/
def fires (conditions : List Condition) (e : Gated α) : Bool :=
  !e.use.spent && Script.due conditions e.condition

def afterFiring (e : Gated α) : Gated α := { e with use := e.use.fired }

/-- The entry after a turn with these conditions. -/
def afterTurn (conditions : List Condition) (e : Gated α) : Gated α :=
  if e.fires conditions then e.afterFiring else e

/-- Carries out the entries that fire, one after the other. -/
def fireAll (conditions : List Condition) (act : α → World → Logged World) :
    List (Gated α) → World → Logged World
  | [], w => pure w
  | e :: rest, w =>
    if e.fires conditions then do
      let w ← act e.item w
      fireAll conditions act rest w
    else fireAll conditions act rest w

end Gated

namespace Script

/-- Pronounces a verdict on a player for every condition of the list that is met. -/
def pronounceAll (conditions : List Condition) (v : Verdict) (player : Nat) :
    List Nat → World → Logged World
  | [], w => pure w
  | id :: rest, w =>
    if conditionMet conditions id then do
      Logged.note (.verdict v id player)
      pronounceAll conditions v player rest (w.pronounce v player)
    else pronounceAll conditions v player rest w

/-- The verdicts of a turn on this machine's player. A network game has none. -/
def giveVerdicts (s : Script) (w : World) : Logged World :=
  if w.network then pure w
  else do
    let me := w.myPlayer
    let w ← pronounceAll s.conditions .win me s.wins w
    pronounceAll s.conditions .lose me s.losses w

/-- The script after a sweep that left these conditions: entries that fire this turn
    have fired. -/
def afterSweep (s : Script) (conditions : List Condition) : Script :=
  { s with
    conditions
    spawns := s.spawns.map (·.afterTurn conditions)
    tunnellers := s.tunnellers.map (·.afterTurn conditions)
    effects := s.effects.map (·.afterTurn conditions) }

def turn (s : Script) (w : World) : Logged (Script × World) := do
  let swept ← sweep w s.conditions
  let w := w.countReadings swept.readings
  let w ← Gated.fireAll swept.conditions (World.spawn s.parties) s.spawns w
  let w ← Gated.fireAll swept.conditions (World.sendOut s.parties) s.tunnellers w
  let w ← Gated.fireAll swept.conditions (Effect.apply s) s.effects w
  let s := s.afterSweep swept.conditions
  let w ← s.giveVerdicts w
  return (s, w)

end Script

end DungeonScript
