import DungeonScript.World

/-!
Creatures and groups. A creature joins the group of another, which has one made for
it if it is alone; a creature in another group leaves that group first. Creatures go
by number: a number without a creature is nobody.
-/

namespace DungeonScript

def tunnellerKind : Nat := 8
def impKind : Nat := 23
/-- Creatures are numbered with 32 bits. -/
def creatureNumbers : Nat := 4294967296

namespace World

/-! ## Creatures -/

def creature? (w : World) (id : Nat) : Option Creature := w.creatures[id]?

def onCreature (id : Nat) (f : Creature → Creature) (w : World) : World :=
  { w with creatures := w.creatures.modify id f }

/-- Whether creatures can appear at a place of this world. -/
def spawnAllowed (w : World) : Place → Bool
  | .actionPoint n => w.hasPoint n
  | .heroGate n => w.hasGate n
  | .heart slot =>
    match playerAt? slot with
    | some p => !(w.dungeon p).heartDestroyed
    | none => false
  | _ => false

def newborn (owner : Player) (kind : Nat) (place : Place) : Creature :=
  ⟨kind, owner, place, 0, 0, true, none, none, none⟩

/-- A creature appears, if it can at this place and there is a number left for it; the
    result names the number. -/
def createCreature (w : World) (owner : Player) (kind : Nat) (place : Place) :
    World × Option Nat :=
  if w.spawnAllowed place ∧ w.creatures.size < creatureNumbers then
    ({ w with creatures := w.creatures.push (newborn owner kind place) }.onDungeon owner
        fun d => { d with creatures := d.creatures + 1 },
      some w.creatures.size)
  else (w, none)

def initCreature (w : World) (id : Nat) (gold : Int) (level : Nat) : World :=
  w.onCreature id fun c => { c with gold, level }

def levelOf (w : World) (id : Nat) : Nat :=
  match w.creature? id with
  | some c => c.level
  | none => 0

def setObjective (w : World) (id : Nat) (objective : Objective) (start : Nat) : World :=
  w.onCreature id fun c => { c with objective := some (objective, start) }

/-- Whether the target of a tunneller can be reached. -/
def reachable (w : World) (heading : Heading) (target : Int) : Bool :=
  match heading with
  | .actionPoint =>
    match itemNumber? target with
    | some n => w.hasPoint n
    | none => false
  | .dungeon | .dungeonHeart =>
    match if 0 ≤ target then playerAt? target.toNat else none with
    | some p => !(w.dungeon p).heartDestroyed
    | none => false
  | .appropriateDungeon => keepers.any fun p => !(w.dungeon p).heartDestroyed

/-- Sends a tunneller; the result says whether its target can be reached. -/
def sendTunneller (w : World) (id : Nat) (heading : Heading) (target : Int) : World × Bool :=
  (w.onCreature id fun c => { c with heading := some (heading, target) },
    w.reachable heading target)

def diggerKind (slot : Nat) : Nat := if slot = heroes.val then tunnellerKind else impKind

/-- Living creatures of a kind that a player owns. -/
def countKind (w : World) (p : Player) (kind : Nat) : Nat :=
  w.creatures.countP fun c => c.alive && c.owner == p && c.kind == kind

/-! ## Killing -/

/-- Numbers of the living creatures of a kind that a player owns, first ones first. -/
def candidates (w : World) (p : Player) (kind : Nat) : List Nat :=
  (List.range w.creatures.size).filter fun id =>
    match w.creature? id with
    | some c => c.alive && c.owner == p && c.kind == kind
    | none => false

/-- Candidates in the order they are killed; equals keep their order. -/
def killList (w : World) (order : KillOrder) (ids : List Nat) : List Nat :=
  match order with
  | .anywhere => ids
  | .mostExperienced | .mostExpWandering | .mostExpWorking | .mostExpFighting =>
    ids.mergeSort fun a b => decide (w.levelOf b ≤ w.levelOf a)
  | .leastExperienced | .leastExpWandering | .leastExpWorking | .leastExpFighting =>
    ids.mergeSort fun a b => decide (w.levelOf a ≤ w.levelOf b)

/-- The creatures that an order to kill `count` of them takes. -/
def victims (w : World) (p : Player) (kind : Nat) (order : KillOrder) (count : Int) : List Nat :=
  (w.killList order (w.candidates p kind)).take count.toNat

/-- The world with one creature of a player dead. -/
def killOne (p : Player) (w : World) (id : Nat) : World :=
  (w.onCreature id fun c => { c with alive := false }).onDungeon p
    fun d => { d with creatures := d.creatures - 1 }

/-- Kills creatures of a player; the result says how many. -/
def killCreatures (w : World) (p : Player) (kind : Nat) (order : KillOrder) (count : Int) :
    World × Nat :=
  let ids := w.victims p kind order count
  (ids.foldl (killOne p) w, ids.length)

/-! ## Groups -/

def leaderOf? (w : World) (id : Nat) : Option Nat := do
  let c ← w.creature? id
  let g ← w.groups[← c.group]?
  return g.leader

/-- The highest level in a creature's group, its own level if it is alone. -/
def topLevelOf (w : World) (id : Nat) : Nat :=
  match w.creature? id with
  | none => 0
  | some c =>
    match c.group.bind (w.groups[·]?) with
    | none => c.level
    | some g => ((g.members.map w.levelOf).max?).getD c.level

def onGroup (g : Nat) (f : Group → Group) (w : World) : World :=
  { w with groups := w.groups.modify g f }

/-- The group of a creature, made with it as leader if it is alone. -/
def groupOf (w : World) (id : Nat) : World × Option Nat :=
  match w.creature? id with
  | none => (w, none)
  | some c =>
    match c.group with
    | some g => (w, some g)
    | none =>
      ({ w with groups := w.groups.push ⟨id, [id]⟩ }.onCreature id
          fun c => { c with group := some w.groups.size },
        some w.groups.size)

/-- The world with a creature out of a group's members. -/
def leave (w : World) (id : Nat) (old : Option Nat) : World :=
  match old with
  | none => w
  | some g => w.onGroup g fun grp => { grp with members := grp.members.filter (· != id) }

/-- Puts a creature into a member's group; the result names the group, if both
    creatures exist. -/
def join (w : World) (id member : Nat) : World × Option Nat :=
  match w.groupOf member with
  | (w, none) => (w, none)
  | (w, some g) =>
    match w.creature? id with
    | none => (w, none)
    | some c =>
      if c.group = some g then (w, some g)
      else
        (((w.leave id c.group).onGroup g fun grp =>
            { grp with members := grp.members ++ [id] }).onCreature id
            fun c => { c with group := some g },
          some g)

def addToGroup (w : World) (id member : Nat) : World := (w.join id member).1

/-- Puts a creature at the head of a member's group. -/
def addAsLeader (w : World) (id member : Nat) : World :=
  match w.join id member with
  | (w, some g) => w.onGroup g fun grp => { grp with leader := id }
  | (w, none) => w

end World

end DungeonScript
