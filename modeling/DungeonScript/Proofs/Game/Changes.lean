import DungeonScript.Proofs.Game.Verdicts
import DungeonScript.Proofs.World.Changes

/-!
What becomes of the world of a game. A level load and a tick come to elementary changes of the
world and nothing else (`loadLevel_changes`, `tick_changes`), and so does a turn of the world once
it has been counted (`World.advance_changes`). What these changes keep is kept by every run.
-/

namespace DungeonScript

namespace Game

theorem Registered.changes {c : Command} {g g' : Game} (done : Registered g c g') :
    World.Changes g.world g'.world := by
  cases done with
  | effectDone _ => exact Effect.apply_changes _ _ _
  | spawnDone _ => exact World.spawn_changes _ _ _
  | tunnellerDone _ => exact World.sendOut_changes _ _ _
  | setUp applied => exact Setup.apply_changes applied
  | _ => exact .refl _

theorem changes_keep : CommandsKeep World.Changes := ⟨.refl, .trans, Registered.changes⟩

theorem loadLevel_changes (text : String) (g : Game) :
    World.Changes g.world (g.loadLevel text).value.world :=
  changes_keep.loadLevel World.forNewLevel_changes text g

theorem tick_changes (o : Options) (g : Game) : World.Changes g.world (g.tick o).value.world := by
  unfold tick
  split
  · exact .refl _
  · exact World.turn_changes g.script g.world

end Game

end DungeonScript
