import DungeonScript.World.Groups
import DungeonScript.Script

/-!
Spawning: creatures, parties and tunnellers appear in the world. The members of a
party join one another as they appear: each joins the group of the one before it, and
leads it when its level is above everyone's there. A tunneller with a party comes
first, alone, and takes the lead once the party stands.
-/

namespace DungeonScript

namespace World

/-- A creature appears with gold and level; the result names its number. -/
def spawnCreature (w : World) (owner : Player) (kind : Nat) (place : Place) (gold : Int)
    (level : Nat) : Logged (World × Option Nat) :=
  match if place.canSpawn then w.createCreature owner kind place else (w, none) with
  | (w, some id) => pure (w.initCreature id gold level, some id)
  | (w, none) => do
    Logged.note (.notCreated kind place)
    return (w, none)

/-- The same creature appears `copies` times. -/
def spawnCopies (owner : Player) (kind : Nat) (place : Place) (gold : Int) (level : Nat) :
    Nat → World → Logged World
  | 0, w => pure w
  | copies + 1, w => do
    let (w, _) ← w.spawnCreature owner kind place gold level
    spawnCopies owner kind place gold level copies w

/-- The turn on which a countdown that starts now ends. -/
def countdownEnd (w : World) (countdown : Int) : Nat := saturateCount (w.turn + countdown)

/-- A new creature meets the one before it; the result names the leader. -/
def meet (w : World) (id : Nat) (previous leader : Option Nat) : World × Option Nat :=
  match previous with
  | none => (w, some id)
  | some before =>
    if w.levelOf id ≤ w.topLevelOf before then (w.addToGroup id before, leader)
    else (w.addAsLeader id before, some id)

/-- The members of a party appear after the creature `previous`; the result names the
    leader. A member that cannot appear is passed over. -/
def spawnMembers (owner : Player) (place : Place) :
    List Member → Option Nat → Option Nat → World → Logged (World × Option Nat)
  | [], _, leader, w => pure (w, leader)
  | m :: rest, previous, leader, w => do
    match ← w.spawnCreature owner m.kind place m.gold m.level with
    | (w, none) => spawnMembers owner place rest previous leader w
    | (w, some id) =>
      let w := w.setObjective id m.objective (w.countdownEnd m.countdown)
      let (w, leader) := w.meet id previous leader
      spawnMembers owner place rest (some id) leader w

/-- A party appears `copies` times; the result names the leader of the last copy. -/
def spawnParty (party : Party) (owner : Player) (place : Place) :
    Nat → World → Logged (World × Option Nat)
  | 0, w => pure (w, none)
  | 1, w => spawnMembers owner place party.members none none w
  | copies + 1, w => do
    let (w, _) ← spawnMembers owner place party.members none none w
    spawnParty party owner place copies w

/-- A tunneller appears and is sent on its way; the result names its number. -/
def spawnTunneller (w : World) (t : Tunneller) : Logged (World × Option Nat) := do
  match ← w.spawnCreature t.owner tunnellerKind t.place t.gold t.level with
  | (w, none) => return (w, none)
  | (w, some id) =>
    let (w, sent) := w.sendTunneller id t.heading t.target
    if !sent then
      Logged.note (if t.heading = .appropriateDungeon then .noDungeonToDig
        else .unreachable t.heading t.target)
    return (w, some id)

/-- A tunneller appears, then one copy of its party, and the tunneller takes the lead. -/
def spawnTunnellerParty (w : World) (party : Party) (t : Tunneller) : Logged World := do
  match ← w.spawnTunneller t with
  | (w, none) =>
    Logged.note .noTunnellerLeader
    return w
  | (w, some id) =>
    match ← spawnParty party t.owner t.place 1 w with
    | (w, none) =>
      Logged.note .noTunnellerGroup
      return w
    | (w, some group) => return w.addAsLeader id group

def spawn (parties : List Party) (s : Spawn) (w : World) : Logged World :=
  match s.brood with
  | .party id copies =>
    match parties[id]? with
    | some party => do
      Logged.note (.addingParty party.name)
      let (w, _) ← spawnParty party s.owner s.place copies.toNat w
      return w
    | none => do
      Logged.note (.missingParty id)
      return w
  | .creatures kind level gold copies => do
    Logged.note (.addingCreature kind)
    spawnCopies s.owner kind s.place gold level copies.toNat w

/-- The tunneller a line asks for appears, with its party if it has one. -/
def sendOut (parties : List Party) (t : Tunneller) (w : World) : Logged World :=
  match t.party.bind (parties[·]?) with
  | some party => do
    Logged.note (.addingTunnellerParty party.name)
    w.spawnTunnellerParty party t
  | none => do
    Logged.note (.addingTunneller t.heading)
    let (w, _) ← w.spawnTunneller t
    return w

end World

end DungeonScript
