import DungeonScript.Proofs.Machine.Checked
import DungeonScript.Proofs.World.Sound

/-!
The machine lets creatures appear and join groups. A creature's owner is a player, the group it is
put down as being in is there, and the count of its owner's creatures has room for one more: all
of this holds in a sound world, where a creature without a number does not appear. So each part
that lets creatures appear comes to what its definition comes to.
-/

namespace DungeonScript

open World

namespace Machine

variable {w : World}

/-! ## Creatures -/

theorem creatures_bounds (sound : w.Sound) (p : Player) :
    0 ≤ (w.dungeon p).creatures ∧ (w.dungeon p).creatures ≤ 4294967296 := by
  have counted : (w.dungeon p).creatures = living w.creatures p := congrArg Prod.fst (sound.counted p)
  have most : living w.creatures p ≤ w.creatures.size := Array.countP_le_size
  have numbered : w.creatures.size ≤ 4294967296 := sound.numbered
  omega

/-- A creature appears, if it can at this place and there is a number for it. -/
def createCreature (w : World) (owner kind : Nat) (place : Place) : Checked (World × Option Nat) :=
  if w.spawnAllowed place ∧ w.creatures.size < creatureNumbers then do
    let p ← slot playerCount owner
    let count ← signed ((w.dungeon p).creatures + 1)
    let w' := { w with creatures := w.creatures.push (newborn p kind place) }
    return (w'.onDungeon p fun d => { d with creatures := count }, some w.creatures.size)
  else return (w, none)

theorem createCreature_eq (sound : w.Sound) (owner : Player) (kind : Nat) (place : Place) :
    createCreature w owner.val kind place = .ok (w.createCreature owner kind place) := by
  have bounds := creatures_bounds sound owner
  have sum : InRange ((w.dungeon owner).creatures + 1) := inRange_iff.2 (by omega)
  unfold createCreature World.createCreature
  simp only [slot_val, ok_bind, signed_eq sum]
  split <;> rfl

def spawnCreature (w : World) (owner kind : Nat) (place : Place) (gold : Int) (level : Nat) :
    Checked (World × Option Nat) := do
  match ← if place.canSpawn then createCreature w owner kind place else pure (w, none) with
  | (w, some id) => return (w.initCreature id gold level, some id)
  | (w, none) => return (w, none)

theorem spawnCreature_eq (sound : w.Sound) (owner : Player) (kind : Nat) (place : Place)
    (gold : Int) (level : Nat) :
    spawnCreature w owner.val kind place gold level =
      .ok (w.spawnCreature owner kind place gold level).value := by
  have creates := createCreature_eq sound owner kind place
  unfold spawnCreature World.spawnCreature
  split
  · rw [creates, ok_bind]
    cases w.createCreature owner kind place with
    | mk w' id? => cases id? <;> rfl
  · rfl

def spawnCopies (owner kind : Nat) (place : Place) (gold : Int) (level : Nat) :
    Nat → World → Checked World
  | 0, w => pure w
  | copies + 1, w => do
    let (w, _) ← spawnCreature w owner kind place gold level
    spawnCopies owner kind place gold level copies w

theorem spawnCopies_eq (owner : Player) (kind : Nat) (place : Place) (gold : Int) (level : Nat) :
    ∀ (copies : Nat) {w : World}, w.Sound →
      spawnCopies owner.val kind place gold level copies w =
        .ok (World.spawnCopies owner kind place gold level copies w).value
  | 0, _, _ => rfl
  | copies + 1, w, sound => by
    have first := w.spawnCreature_changes owner kind place gold level
    rw [spawnCopies, spawnCreature_eq sound owner kind place gold level, ok_bind]
    exact spawnCopies_eq owner kind place gold level copies (first.sound sound)

/-! ## Groups -/

def topLevelOf (w : World) (id : Nat) : Checked Nat :=
  match w.creature? id with
  | none => pure 0
  | some c =>
    match c.group with
    | none => pure c.level
    | some g => do
      let group ← found w.groups[g]?
      return ((group.members.map w.levelOf).max?).getD c.level

theorem group_lt (sound : w.Sound) {id g : Nat} {c : Creature} (here : w.creature? id = some c)
    (grouped : c.group = some g) : g < w.groups.size :=
  sound.grouped c (Array.mem_of_getElem? here) g grouped

theorem topLevelOf_eq (sound : w.Sound) (id : Nat) : topLevelOf w id = .ok (w.topLevelOf id) := by
  unfold topLevelOf World.topLevelOf
  cases here : w.creature? id with
  | none => rfl
  | some c =>
    simp only
    cases grouped : c.group with
    | none => rfl
    | some g =>
      have there := Array.getElem?_eq_getElem (group_lt sound here grouped)
      simp only [Option.bind_some, there]
      rfl

def onGroup (g : Nat) (f : Group → Group) (w : World) : Checked World := do
  let groups ← modifyAt w.groups g f
  return { w with groups }

theorem onGroup_eq {g : Nat} (h : g < w.groups.size) (f : Group → Group) :
    onGroup g f w = .ok (w.onGroup g f) := by
  unfold onGroup
  rw [modifyAt_eq h]
  rfl

/-- The world with a creature out of a group's members. -/
def leave (w : World) (id : Nat) : Option Nat → Checked World
  | none => pure w
  | some g => onGroup g (fun grp => { grp with members := grp.members.filter (· != id) }) w

def join (w : World) (id member : Nat) : Checked (World × Option Nat) :=
  match w.groupOf member with
  | (w, none) => pure (w, none)
  | (w, some g) =>
    match w.creature? id with
    | none => pure (w, none)
    | some c =>
      if c.group = some g then pure (w, some g)
      else do
        let w ← leave w id c.group
        let w ← onGroup g (fun grp => { grp with members := grp.members ++ [id] }) w
        return (w.onCreature id fun c => { c with group := some g }, some g)

theorem join_eq (sound : w.Sound) (id member : Nat) :
    join w id member = .ok (w.join id member) ∧
      ∀ w' g, w.join id member = (w', some g) → g < w'.groups.size := by
  unfold join World.join
  cases group : w.groupOf member with
  | mk w' g? =>
    cases g? with
    | none =>
      refine ⟨rfl, fun _ _ joined => ?_⟩
      cases joined
    | some g =>
      obtain ⟨changes, other, there, joined⟩ := groupOf_spec group
      have sound' := changes.sound sound
      have here : g < w'.groups.size := group_lt sound' there joined
      simp only
      cases one : w'.creature? id with
      | none =>
        refine ⟨rfl, fun _ _ joined => ?_⟩
        cases joined
      | some c =>
        simp only
        split
        · refine ⟨rfl, fun _ _ joined => ?_⟩
          cases joined
          exact here
        · -- the groups are as many after the old one has been left
          have left : leave w' id c.group = .ok (w'.leave id c.group) := by
            cases old : c.group with
            | none => rfl
            | some old => exact onGroup_eq (group_lt sound' one (by assumption)) _
          have size : (w'.leave id c.group).groups.size = w'.groups.size := by
            cases c.group with
            | none => rfl
            | some old => exact Array.size_modify
          rw [left, ok_bind, onGroup_eq (by omega)]
          refine ⟨rfl, fun _ _ joined => ?_⟩
          cases joined
          show _ < ((w'.leave id c.group).groups.modify g _).size
          rw [Array.size_modify, size]
          exact here

/-- Puts a creature at the head of a member's group. -/
def addAsLeader (w : World) (id member : Nat) : Checked World := do
  match ← join w id member with
  | (w, some g) => onGroup g (fun grp => { grp with leader := id }) w
  | (w, none) => return w

theorem addAsLeader_eq (sound : w.Sound) (id member : Nat) :
    addAsLeader w id member = .ok (w.addAsLeader id member) := by
  obtain ⟨joins, there⟩ := join_eq sound id member
  unfold addAsLeader World.addAsLeader
  rw [joins, ok_bind]
  cases joined : w.join id member with
  | mk w' g? =>
    cases g? with
    | none => rfl
    | some g => exact onGroup_eq (there w' g joined) _

def meet (w : World) (id : Nat) (previous leader : Option Nat) : Checked (World × Option Nat) :=
  match previous with
  | none => pure (w, some id)
  | some before => do
    if w.levelOf id ≤ (← topLevelOf w before) then return ((← join w id before).1, leader)
    else return (← addAsLeader w id before, some id)

theorem meet_eq (sound : w.Sound) (id : Nat) (previous leader : Option Nat) :
    meet w id previous leader = .ok (w.meet id previous leader) := by
  unfold meet World.meet
  cases previous with
  | none => rfl
  | some before =>
    simp only [topLevelOf_eq sound, ok_bind, (join_eq sound id before).1, addAsLeader_eq sound]
    split <;> rfl

/-! ## Parties and tunnellers -/

/-- The members of a party appear after the creature `previous`. -/
def spawnMembers (owner : Nat) (place : Place) :
    List Member → Option Nat → Option Nat → World → Checked (World × Option Nat)
  | [], _, leader, w => pure (w, leader)
  | m :: rest, previous, leader, w => do
    match ← spawnCreature w owner m.kind place m.gold m.level with
    | (w, none) => spawnMembers owner place rest previous leader w
    | (w, some id) =>
      let w := w.setObjective id m.objective (w.countdownEnd m.countdown)
      let (w, leader) ← meet w id previous leader
      spawnMembers owner place rest (some id) leader w

theorem spawnMembers_eq (owner : Player) (place : Place) :
    ∀ (members : List Member) (previous leader : Option Nat) {w : World}, w.Sound →
      spawnMembers owner.val place members previous leader w =
        .ok (World.spawnMembers owner place members previous leader w).value
  | [], _, _, _, _ => rfl
  | m :: rest, previous, leader, w, sound => by
    have appears := w.spawnCreature_changes owner m.kind place m.gold m.level
    rw [World.spawnMembers, Logged.value_bind, spawnMembers,
      spawnCreature_eq sound owner m.kind place m.gold m.level, ok_bind]
    cases spawned : (w.spawnCreature owner m.kind place m.gold m.level).value with
    | mk w' id? =>
      rw [spawned] at appears
      cases id? with
      | none => exact spawnMembers_eq owner place rest previous leader (appears.sound sound)
      | some id =>
        let met := w'.setObjective id m.objective (w'.countdownEnd m.countdown)
        have sets : Changes w' met := setObjective_changes ..
        have meets := meet_changes met id previous leader
        have sound' := sets.sound (appears.sound sound)
        simp only
        rw [meet_eq sound', ok_bind]
        exact spawnMembers_eq owner place rest (some id) _ (meets.sound sound')

def spawnParty (party : Party) (owner : Nat) (place : Place) :
    Nat → World → Checked (World × Option Nat)
  | 0, w => pure (w, none)
  | 1, w => spawnMembers owner place party.members none none w
  | copies + 1, w => do
    let (w, _) ← spawnMembers owner place party.members none none w
    spawnParty party owner place copies w

theorem spawnParty_eq (party : Party) (owner : Player) (place : Place) :
    ∀ (copies : Nat) {w : World}, w.Sound →
      spawnParty party owner.val place copies w =
        .ok (World.spawnParty party owner place copies w).value
  | 0, _, _ => rfl
  | 1, _, sound => spawnMembers_eq owner place party.members none none sound
  | copies + 2, w, sound => by
    have first := spawnMembers_changes owner place party.members none none w
    have many : copies + 1 = 0 → False := by omega
    rw [World.spawnParty, Logged.value_bind]
    · rw [spawnParty, spawnMembers_eq owner place party.members none none sound, ok_bind]
      · exact spawnParty_eq party owner place (copies + 1) (first.sound sound)
      · exact many
    · exact many

def sendTunneller (w : World) (id : Nat) (heading : Heading) (target : Int) :
    Checked (World × Bool) := do
  let reachable ← match heading with
    | .appropriateDungeon => do
      let keepers ← firstPlayers heroes.val
      pure (keepers.any fun p => !(w.dungeon p).heartDestroyed)
    | _ => pure (w.reachable heading target)
  return (w.onCreature id fun c => { c with heading := some (heading, target) }, reachable)

theorem sendTunneller_eq (w : World) (id : Nat) (heading : Heading) (target : Int) :
    sendTunneller w id heading target = .ok (w.sendTunneller id heading target) := by
  cases heading <;> rfl

theorem value_noteIf {α : Type} {c : Prop} [Decidable c] (n : Note) (y : Logged α) :
    (if c then Logged.note n >>= fun _ => y else y).value = y.value := by
  split <;> rfl

/-- A tunneller appears and is sent on its way. -/
def spawnTunneller (w : World) (t : Tunneller) : Checked (World × Option Nat) := do
  match ← spawnCreature w t.owner.val tunnellerKind t.place t.gold t.level with
  | (w, none) => return (w, none)
  | (w, some id) =>
    let (w, _) ← sendTunneller w id t.heading t.target
    return (w, some id)

theorem spawnTunneller_eq (sound : w.Sound) (t : Tunneller) :
    spawnTunneller w t = .ok (w.spawnTunneller t).value := by
  rw [World.spawnTunneller, Logged.value_bind]
  unfold spawnTunneller
  rw [spawnCreature_eq sound t.owner tunnellerKind t.place t.gold t.level, ok_bind]
  cases (w.spawnCreature t.owner tunnellerKind t.place t.gold t.level).value with
  | mk w' id? =>
    cases id? with
    | none => rfl
    | some id =>
      simp only [value_noteIf, sendTunneller_eq, ok_bind]
      rfl

/-- A tunneller appears, then one copy of its party, and the tunneller takes the lead. -/
def spawnTunnellerParty (w : World) (party : Party) (t : Tunneller) : Checked World := do
  match ← spawnTunneller w t with
  | (w, none) => return w
  | (w, some id) =>
    match ← spawnParty party t.owner.val t.place 1 w with
    | (w, none) => return w
    | (w, some group) => addAsLeader w id group

theorem spawnTunnellerParty_eq (sound : w.Sound) (party : Party) (t : Tunneller) :
    spawnTunnellerParty w party t = .ok (w.spawnTunnellerParty party t).value := by
  have appears := w.spawnTunneller_changes t
  rw [World.spawnTunnellerParty, Logged.value_bind]
  unfold spawnTunnellerParty
  rw [spawnTunneller_eq sound t, ok_bind]
  cases spawned : (w.spawnTunneller t).value with
  | mk w' id? =>
    rw [spawned] at appears
    cases id? with
    | none => rfl
    | some id =>
      have follows := spawnParty_changes party t.owner t.place 1 w'
      simp only [Logged.value_bind]
      rw [spawnParty_eq party t.owner t.place 1 (appears.sound sound), ok_bind]
      cases led : (World.spawnParty party t.owner t.place 1 w').value with
      | mk w'' group? =>
        rw [led] at follows
        cases group? with
        | none => rfl
        | some group => exact addAsLeader_eq (follows.sound (appears.sound sound)) id group

def spawn (parties : List Party) (s : Spawn) (w : World) : Checked World :=
  match s.brood with
  | .party id copies =>
    match parties[id]? with
    | some party => (·.1) <$> spawnParty party s.owner.val s.place copies.toNat w
    | none => pure w
  | .creatures kind level gold copies =>
    spawnCopies s.owner.val kind s.place gold level copies.toNat w

theorem spawn_eq (parties : List Party) (s : Spawn) (sound : w.Sound) :
    spawn parties s w = .ok (World.spawn parties s w).value := by
  unfold spawn World.spawn
  cases s.brood with
  | party id copies =>
    simp only
    cases parties[id]? with
    | none => rfl
    | some party =>
      simp only
      rw [spawnParty_eq party s.owner s.place copies.toNat sound]
      rfl
  | creatures kind level gold copies =>
    exact spawnCopies_eq s.owner kind s.place gold level copies.toNat sound

/-- The tunneller a line asks for appears, with its party if it has one. -/
def sendOut (parties : List Party) (t : Tunneller) (w : World) : Checked World :=
  match t.party.bind (parties[·]?) with
  | some party => spawnTunnellerParty w party t
  | none => (·.1) <$> spawnTunneller w t

theorem sendOut_eq (parties : List Party) (t : Tunneller) (sound : w.Sound) :
    sendOut parties t w = .ok (World.sendOut parties t w).value := by
  unfold sendOut World.sendOut
  cases t.party.bind (parties[·]?) with
  | none =>
    simp only
    rw [spawnTunneller_eq sound t]
    rfl
  | some party => exact spawnTunnellerParty_eq sound party t

end Machine

end DungeonScript
