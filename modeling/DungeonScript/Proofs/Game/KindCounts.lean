import DungeonScript.Proofs.Game.Deeds
import DungeonScript.Proofs.World.Sound
import Mathlib.Data.List.Basic

/-!
What a condition on a creature kind counts. For most kinds it counts the living creatures there are.
For the digger kind of a player it reads a number that the dungeon keeps beside the creatures, and
nothing that happens in a game writes to this number: no creature that appears is added to it and no
creature that is killed is taken off (`diggers_moved`). It stays at the 0 it starts with. So a
condition on a kind is about the living creatures of that kind exactly if they are not the player's
diggers, or if there are none of them (`kind_measured`).
-/

namespace DungeonScript

/-! ## The count of diggers -/

theorem Realm.diggers_lasting : Realm.Lasting fun r => r.dungeon.diggers where
  unpeopled _ := rfl
  newLevel _ := rfl
  setUp setsUp := setsUp.diggers

theorem Effect.diggers_apply (script : Script) (e : Effect) (w : World) (p : Player) :
    ((e.apply script w).value.dungeon p).diggers = (w.dungeon p).diggers :=
  Realm.diggers_lasting.effect_apply (fun spares => spares.diggers) script w p

theorem Settings.diggers_world (s : Settings) (p : Player) :
    (s.world.value.dungeon p).diggers = 0 := by
  have fresh : (World.fresh.dungeon p).diggers = 0 := by
    revert p
    decide
  exact (s.world_keeps (k := fun w => (w.dungeon p).diggers) (fun _ _ _ _ => rfl)).trans fresh

namespace Game

/-- Nothing within a turn moves the count of diggers, for all that appears and is killed. -/
theorem diggers_moved (p : Player) :
    MovedByEffects (fun w => (w.dungeon p).diggers) fun count _ => count :=
  movedByEffects_of_lasting Realm.diggers_lasting fun script e w => e.diggers_apply script w p

/-! ## Runs -/

theorem diggers_step (o : Options) (g : Game) (s : Step) (p : Player) :
    ((g.step o s).world.dungeon p).diggers = (g.world.dungeon p).diggers :=
  ((diggers_moved p).step (fun w => Realm.diggers_lasting.forNewLevel w p)
    (fun w => Realm.diggers_lasting.advance w p) o g s).trans (List.foldl_fixed _)

theorem diggers_stepAll (o : Options) (steps : List Step) (g : Game) (p : Player) :
    ((g.stepAll o steps).world.dungeon p).diggers = (g.world.dungeon p).diggers := by
  induction steps generalizing g with
  | nil => rfl
  | cons s rest ih => exact (ih (g.step o s)).trans (g.diggers_step o s p)

/-- **What a condition on a kind counts.** Take the world of any settings, and let the passes over
    any texts, turns of the world and ticks follow each other in any way. Asked for the creatures of
    a kind, a player then has as many as live, unless the kind is the player's digger: of these
    there are always 0. So the answer is the number of living creatures of the kind exactly if they
    are no diggers of the player, or none of them lives. -/
theorem kind_measured (s : Settings) (steps : List Step) (p : Player) (kind : Nat) :
    let now := ((fresh s.options s.world.value).stepAll s.options steps).world
    now.measure p .creatureNum kind =
      (if kind = World.diggerKind p then 0 else (now.countKind p kind : Int)) ∧
    (now.measure p .creatureNum kind = now.countKind p kind ↔
      kind ≠ World.diggerKind p ∨ now.countKind p kind = 0) := by
  intro now
  have none : (now.dungeon p).diggers = 0 :=
    (diggers_stepAll s.options steps _ p).trans (s.diggers_world p)
  have measured : now.measure p .creatureNum kind =
      if kind = World.diggerKind p then 0 else (now.countKind p kind : Int) := by
    rw [← none]
    rfl
  refine ⟨measured, ?_⟩
  rw [measured]
  split
  · rename_i digger
    simp only [digger, ne_eq, not_true_eq_false, false_or]
    omega
  · rename_i other
    simp only [ne_eq, other, not_false_eq_true, true_or]

/-- Two imps and a tunneller that live and are not counted. -/
theorem kind_measured_of_diggers :
    let s := { Settings.usual with gates := [⟨1, 40, 40⟩] }
    let text := "ADD_CREATURE_TO_LEVEL(PLAYER0,IMP,PLAYER0,2,1,0)\n" ++
      "ADD_TUNNELLER_TO_LEVEL(PLAYER_GOOD,-1,DUNGEON,0,1,0)\n"
    let steps : List Step := [.load text, .advance, .tick]
    let now := ((fresh s.options s.world.value).stepAll s.options steps).world
    (now.countKind 0 impKind = 2 ∧ now.measure 0 .creatureNum impKind = 0) ∧
      (now.countKind heroes tunnellerKind = 1 ∧
        now.measure heroes .creatureNum tunnellerKind = 0) := by
  intro s text steps now
  have living : (now.countKind 0 impKind, now.countKind heroes tunnellerKind) = (2, 1) := by
    decide +kernel
  obtain ⟨imps, tunnellers⟩ := Prod.mk.inj living
  have uncounted (p : Player) : now.measure p .creatureNum (World.diggerKind p) = 0 :=
    (kind_measured s steps p _).1.trans (if_pos rfl)
  exact ⟨⟨imps, uncounted 0⟩, tunnellers, uncounted heroes⟩

end Game

end DungeonScript
