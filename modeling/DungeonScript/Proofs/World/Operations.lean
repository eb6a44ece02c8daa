import DungeonScript.Proofs.World.Gathering

/-!
Operations on a world. A game offers those who change it a fixed set of operations (`Operation`),
and effects, which are made of them, are counted among these. Creatures go by number, and any
number may be given, whether there is such a creature or not. A dungeon may be written to in every
way that leaves the count of its creatures alone.

Three operations touch groups: a creature appears, in no group, and a creature joins another's group
or takes the lead of it. All others leave alone which groups there are and who is put down as being
in which (`grouping_perform`).
-/

namespace DungeonScript

/-- An operation on a world. -/
inductive Operation where
  /-- A dungeon is read, which is counted. -/
  | readDungeon
  | writeDungeon (p : Player) (f : Dungeon → Dungeon)
      (spares : ∀ d, (f d).creatures = d.creatures)
  | writeRules (f : Rules → Rules)
  | writeStats (kind : Nat) (f : Stats → Stats)
  | resetPoint (number : Nat)
  | reveal (shown : Revealed)
  | give (stock : Stock) (item : Nat) (first second : Int) (p : Player)
  /-- The research list is emptied, for scripts to fill. -/
  | dropResearch (p : Player)
  | listResearch (p : Player) (item : ResearchItem)
  | setResearch (p : Player) (item : ResearchItem)
  | addToPool (kind : Nat) (amount : Int)
  | setTendency (p : Player) (tendency : Tendency) (value : Int)
  | kill (p : Player) (kind : Nat) (order : KillOrder) (count : Int)
  | create (owner : Player) (kind : Nat) (place : Place)
  | init (id : Nat) (gold : Int) (level : Nat)
  | join (id member : Nat)
  | lead (id member : Nat)
  | setObjective (id : Nat) (objective : Objective) (start : Nat)
  | send (id : Nat) (heading : Heading) (target : Int)
  | setComputer (p : Player) (model : Int)
  | setGlobals (p : Player) (values : List Int)
  | setPlan (p : Player) (sort : PlanSort) (name : String) (values : List Int)
  | swap (slot : Newcomer) (kind : Nat)
  | tell (m : Message)
  | flash (button duration : Int)
  | pronounce (v : Verdict) (player : Nat)
  | effect (script : Script) (e : Effect)

namespace World

def perform (w : World) : Operation → World
  | .readDungeon => w.countReadings 1
  | .writeDungeon p f _ => w.onDungeon p f
  | .writeRules f => { w with rules := f w.rules }
  | .writeStats kind f =>
    { w with stats := updateAt w.stats (slotOf creatureTypes_pos kind) f }
  | .resetPoint number => w.resetPoint number
  | .reveal shown => { w with revealed := w.revealed.push shown }
  | .give stock item first second p => (give stock item first second p w).value
  | .dropResearch p => w.onRealm p fun r => { r with research := #[], researchReplaced := true }
  | .listResearch p item => w.onRealm p fun r => { r with research := r.research.push item }
  | .setResearch p item => w.onRealm p (Realm.setResearch item.kind item.item item.amount)
  | .addToPool kind amount => w.addToPool kind amount
  | .setTendency p tendency value => w.onRealm p (Realm.setTendency tendency value)
  | .kill p kind order count => (w.killCreatures p kind order count).1
  | .create owner kind place => (w.createCreature owner kind place).1
  | .init id gold level => w.initCreature id gold level
  | .join id member => w.addToGroup id member
  | .lead id member => w.addAsLeader id member
  | .setObjective id objective start => w.setObjective id objective start
  | .send id heading target => (w.sendTunneller id heading target).1
  | .setComputer p model => w.onRealm p (Realm.setComputer model)
  | .setGlobals p values => w.onRealm p (Realm.setGlobals values)
  | .setPlan p sort name values => w.onRealm p (Realm.setPlan sort name values)
  | .swap slot kind =>
    if kind < creatureTypes then { w with swaps := w.swaps.push (slot, kind) } else w
  | .tell m => { w with messages := w.messages.push m }
  | .flash button duration => { w with flashing := (button, duration) }
  | .pronounce v player => w.pronounce v player
  | .effect script e => (e.apply script w).value

def performAll (w : World) (ops : List Operation) : World := ops.foldl perform w

/-- What every operation keeps outlives any row of them. -/
theorem performAll_keeps {holds : World → Prop} {w : World} (start : holds w)
    (step : ∀ w op, holds w → holds (w.perform op)) (ops : List Operation) :
    holds (w.performAll ops) := by
  induction ops generalizing w with
  | nil => exact start
  | cons op rest ih => exact ih (step w op start)

/-- Nobody is there yet: there is no creature and no group, and no creature is counted. -/
structure Uninhabited (w : World) : Prop where
  creatures : w.creatures = #[]
  groups : w.groups = #[]
  counts : ∀ p, (w.dungeon p).creatures = 0

theorem fresh_uninhabited : fresh.Uninhabited where
  creatures := rfl
  groups := rfl
  counts := by decide

/-! ## Who is in which group -/

/-- The groups there are, and the group that each creature is put down as being in. -/
def grouping (w : World) : Array Group × (Nat → Option (Option Nat)) := (w.groups, w.groupAt)

theorem grouping_onCreature (w : World) (id : Nat) {f : Creature → Creature}
    (same : ∀ c, (f c).group = c.group) : (w.onCreature id f).grouping = w.grouping :=
  Prod.ext rfl (funext (w.groupAt_onCreature id same))

theorem grouping_killOne (p : Player) (w : World) (id : Nat) :
    (killOne p w id).grouping = w.grouping :=
  w.grouping_onCreature id fun _ => rfl

theorem grouping_killOnes (p : Player) (ids : List Nat) (w : World) :
    (ids.foldl (killOne p) w).grouping = w.grouping := by
  induction ids generalizing w with
  | nil => rfl
  | cons id rest ih =>
    calc ((rest.foldl (killOne p) (killOne p w id)).grouping)
      _ = (killOne p w id).grouping := ih (killOne p w id)
      _ = w.grouping := grouping_killOne p w id

end World

open World in
theorem Effect.apply_grouping (s : Script) (e : Effect) (w : World) :
    (e.apply s w).value.grouping = w.grouping :=
  Effect.apply_keeps (k := World.grouping) (fun _ _ _ _ => rfl) grouping_killOne
    (fun _ _ _ _ _ _ _ _ => rfl) s w

def Operation.regroups : Operation → Bool
  | create _ _ _ => true
  | join _ _ => true
  | lead _ _ => true
  | _ => false

namespace World

theorem grouping_perform (w : World) {op : Operation} (quiet : op.regroups = false) :
    (w.perform op).grouping = w.grouping := by
  cases op with
  | create | join | lead => cases quiet
  | give stock item first second p =>
    simp only [perform]
    rcases give_gift stock item first second p w with same | ⟨f, _, same⟩
    · rw [same]
    · rw [same]
      rfl
  | kill p kind order count => exact grouping_killOnes p _ w
  | init id gold level => exact w.grouping_onCreature id fun _ => rfl
  | setObjective id objective start => exact w.grouping_onCreature id fun _ => rfl
  | send id heading target => exact w.grouping_onCreature id fun _ => rfl
  | effect script e => exact e.apply_grouping script w
  | resetPoint number =>
    simp only [perform, resetPoint]
    split <;> rfl
  | swap slot kind =>
    simp only [perform]
    split <;> rfl
  | pronounce v player =>
    cases v <;> simp only [perform, World.pronounce] <;> split <;> rfl
  | _ => rfl

end World

end DungeonScript
