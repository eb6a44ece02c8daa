import DungeonScript.Proofs.World.Operations
import DungeonScript.Proofs.World.Sound

/-!
The count of a player's creatures. A dungeon keeps the number of creatures of its player, for
conditions to read, beside the creatures themselves. The two are changed together: a creature that
appears is counted, and each one that is killed was alive and is counted no more. So the count is
the number of living creatures after any operations (`creatures_counted`), also where a creature
cannot appear, where fewer can be killed than are to be, and where the dead are to be killed again.
-/

namespace DungeonScript

namespace World

/-- Every dungeon counts the living creatures of its player. -/
def Counted (w : World) : Prop := ∀ p, (w.dungeon p).creatures = living w.creatures p

namespace Counted

variable {w w' : World}

theorem of_uninhabited (bare : w.Uninhabited) : Counted w := by
  intro p
  rw [bare.counts, bare.creatures]
  rfl

/-- One player's realm changes, and the list of creatures with it. -/
theorem recount (counted : Counted w) {p : Player} {f : Realm → Realm} {creatures : Array Creature}
    (own : (f (w.realm p)).dungeon.creatures = living creatures p)
    (others : ∀ q, p ≠ q → living creatures q = living w.creatures q) :
    Counted ({ w with creatures }.onRealm p f) := by
  intro q
  show (World.realm _ q).dungeon.creatures = living creatures q
  rw [realm_onRealm]
  split
  · rename_i same
    subst same
    exact own
  · rename_i ne
    rw [others q ne]
    exact counted q

theorem onRealm (counted : Counted w) (p : Player) {f : Realm → Realm}
    (same : ∀ r, (f r).dungeon.creatures = r.dungeon.creatures) : Counted (w.onRealm p f) :=
  counted.recount ((same _).trans (counted p)) fun _ _ => rfl

theorem change (counted : Counted w) (change : Change w w') : Counted w' := by
  cases change with
  | realm p steady => exact counted.onRealm p fun r => congrArg Prod.fst (steady.tallies r)
  | born owner kind place _ =>
    have counts := living_push_newborn w.creatures owner kind place
    refine counted.recount ?_ fun q ne => ?_
    · rw [counts, if_pos rfl, Int.natCast_add, ← counted owner]
      rfl
    · rw [counts, if_neg ne, Nat.add_zero]
  | @died _ id c here alive owner =>
    subst owner
    have counts := living_modify_dead here alive
    refine counted.recount ?_ fun q ne => ?_
    · have own := counts c.owner
      rw [if_pos rfl] at own
      have before := counted c.owner
      rw [← own] at before
      exact Int.sub_eq_iff_eq_add.2 before
    · have other := counts q
      rwa [if_neg ne, Nat.add_zero] at other
  | creature id same _ =>
    intro q
    show _ = ((living (w.creatures.modify id _) q : Nat) : Int)
    rw [living_modify_of_same w.creatures id same]
    exact counted q
  | groups _ => exact counted
  | point _ _ => exact counted
  | other same =>
    have realms : w'.realms = w.realms := congrArg Core.realms same
    have creatures : w'.creatures = w.creatures := congrArg Core.creatures same
    intro q
    rw [creatures, ← counted q, dungeon, dungeon, realm, realm, realms]

theorem changes (counted : Counted w) (changes : Changes w w') : Counted w' := by
  induction changes with
  | refl => exact counted
  | next _ change ih => exact ih.change change

theorem perform (counted : Counted w) (op : Operation) : Counted (w.perform op) := by
  cases op with
  | writeDungeon p f spares => exact counted.onRealm p fun r => spares r.dungeon
  | dropResearch p => exact counted.onRealm p fun _ => rfl
  | listResearch p item => exact counted.onRealm p fun _ => rfl
  | setResearch p item => exact counted.onRealm p fun _ => rfl
  | setTendency p tendency value => exact counted.onRealm p fun _ => by cases tendency <;> rfl
  | setComputer p model => exact counted.onRealm p fun _ => rfl
  | setGlobals p values => exact counted.onRealm p fun _ => rfl
  | setPlan p sort name values => exact counted.onRealm p fun _ => rfl
  | give stock item first second p =>
    exact counted.changes (give_changes stock item first second p w)
  | resetPoint number => exact counted.changes (w.resetPoint_changes number)
  | kill p kind order count => exact counted.changes (w.killCreatures_changes p kind order count)
  | create owner kind place => exact counted.changes (w.createCreature_changes owner kind place)
  | init id gold level => exact counted.changes (w.initCreature_changes id gold level)
  | join id member => exact counted.changes (w.addToGroup_changes id member)
  | lead id member => exact counted.changes (w.addAsLeader_changes id member)
  | setObjective id objective start =>
    exact counted.changes (w.setObjective_changes id objective start)
  | send id heading target => exact counted.changes (w.sendTunneller_changes id heading target)
  | effect script e => exact counted.changes (e.apply_changes script w)
  | pronounce v player => exact counted.changes (changes_of_core (w.core_pronounce v player))
  | swap slot kind =>
    simp only [World.perform]
    split
    · exact counted
    · exact counted
  | _ => exact counted

end Counted

/-- **The count of creatures.** After any operations on a world that nobody was in, the dungeon of
    each player counts the living creatures that the player owns. -/
theorem creatures_counted {w : World} (bare : w.Uninhabited) (ops : List Operation) (p : Player) :
    ((w.performAll ops).dungeon p).creatures = living (w.performAll ops).creatures p :=
  performAll_keeps (Counted.of_uninhabited bare) (fun _ op counted => counted.perform op) ops p

/-- Three creatures appear and a fourth cannot. Of the first player's two, one is killed by an
    effect, and of five more that are to be killed one is there. -/
theorem creatures_counted_after_kills :
    let ops : List Operation := [.create 0 1 (.heart 0), .create 0 1 (.heart 0),
      .create 2 1 (.heart 2), .create 0 1 (.actionPoint 7), .init 1 100 4,
      .effect .empty (.kill (.one 0) 1 .anywhere 1), .kill 0 1 .anywhere 5]
    fresh.Uninhabited ∧ (fresh.performAll ops).creatures.size = 3 ∧
      ((fresh.performAll ops).dungeon 0).creatures = 0 ∧
      ((fresh.performAll ops).dungeon 2).creatures = 1 := by
  intro ops
  refine ⟨fresh_uninhabited, by rfl, ?_, ?_⟩
  · rw [creatures_counted fresh_uninhabited ops 0]
    rfl
  · rw [creatures_counted fresh_uninhabited ops 2]
    rfl

end World

end DungeonScript
