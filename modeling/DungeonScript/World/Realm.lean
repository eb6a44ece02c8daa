import DungeonScript.Effect
import DungeonScript.Slots

/-!
Realms: what the game keeps for one player. The dungeon is the part of it that
conditions read; the rest is what scripts give, forbid or order, and the computer
player behind it if there is one.
-/

namespace DungeonScript

/-! ## Dungeons -/

/-- A timer that counts turns from the turn it was set. -/
structure TurnTimer where
  running : Bool
  /-- The turn it was set. -/
  started : Nat
  deriving Repr, DecidableEq, Inhabited

def TurnTimer.idle : TurnTimer := ⟨false, 0⟩

/-- The part of a player's game that scripts read. -/
structure Dungeon where
  gold : Int
  /-- Gold that lies in no treasure room. -/
  goldOffMap : Int
  lastBreakIn : Int
  diggers : Int
  creatures : Int
  /-- Creatures that a count of all creatures leaves out. -/
  uncounted : Int
  /-- Research points times 256. -/
  researchPoints : Int
  doors : Int
  area : Int
  creaturesLeft : Int
  annoyed : Int
  battlesLost : Int
  battlesWon : Int
  roomsDestroyed : Int
  spellsStolen : Int
  timesBrokenInto : Int
  goldPotsStolen : Int
  heartDestroyed : Bool
  goldMined : Int
  doorsDestroyed : Int
  scavengedLost : Int
  scavengedGained : Int
  timers : Vector TurnTimer timerCount
  flags : Vector Int flagCount
  powerLevel : Vector Int powerTypes
  trapBuildable : Vector Int trapTypes
  trapAmount : Vector Int trapTypes
  trapPlaceable : Vector Int trapTypes
  doorBuildable : Vector Int doorTypes
  doorAmount : Vector Int doorTypes
  doorPlaceable : Vector Int doorTypes
  roomBuildable : Vector Int roomTypes
  hates : Vector Int playerCount
  allied : Vector Bool playerCount
  maxCreatures : Int
  /-- Highest experience level of each creature kind. -/
  maxLevel : Vector Int creatureTypes
  deriving Repr, DecidableEq

namespace Dungeon

/-- The dungeon at the start of a game: nothing counted, nothing given. -/
def fresh : Dungeon where
  gold := 0
  goldOffMap := 0
  lastBreakIn := 0
  diggers := 0
  creatures := 0
  uncounted := 0
  researchPoints := 0
  doors := 0
  area := 0
  creaturesLeft := 0
  annoyed := 0
  battlesLost := 0
  battlesWon := 0
  roomsDestroyed := 0
  spellsStolen := 0
  timesBrokenInto := 0
  goldPotsStolen := 0
  heartDestroyed := false
  goldMined := 0
  doorsDestroyed := 0
  scavengedLost := 0
  scavengedGained := 0
  timers := .replicate _ .idle
  flags := .replicate _ 0
  powerLevel := .replicate _ 0
  trapBuildable := .replicate _ 0
  trapAmount := .replicate _ 0
  trapPlaceable := .replicate _ 0
  doorBuildable := .replicate _ 0
  doorAmount := .replicate _ 0
  doorPlaceable := .replicate _ 0
  roomBuildable := .replicate _ 0
  hates := .replicate _ 0
  allied := .replicate _ false
  maxCreatures := 0
  maxLevel := .replicate _ topLevel

instance : Inhabited Dungeon := ⟨fresh⟩

/-- The dungeon with gold added; sums stop at the ends of their range. -/
def addGold (d : Dungeon) (amount : Int) : Dungeon :=
  { d with goldOffMap := saturate (d.goldOffMap + amount), gold := saturate (d.gold + amount) }

/-- The dungeon as a level finds it: levels open to the top, no timer running, no
    flag set. -/
def forNewLevel (d : Dungeon) : Dungeon :=
  { d with
    maxLevel := .replicate _ topLevel
    timers := .replicate _ .idle
    flags := .replicate _ 0 }

end Dungeon

/-! ## Computer players -/

/-- One named check, event or process of a computer player. -/
structure Plan where
  name : String
  values : List Int
  deriving Repr, DecidableEq

namespace PlanSort

/-- The plans every computer player starts with. -/
def names : PlanSort → List String
  | check =>
    ["CHECK MONEY", "CHECK EXPAND ROOM", "CHECK AVAILIABLE TRAP", "CHECK AVAILIABLE DOOR",
     "CHECK FOR NEUTRAL PLACES", "CHECK FOR ENEMY ENTRANCES", "CHECK FOR SLAP IMP",
     "CHECK FOR SPEED UP", "CHECK FOR QUICK ATTACK", "CHECK TO PRETTY"]
  | event =>
    ["EVENT DUNGEON BREACH", "EVENT ROOM ATTACK", "EVENT HEART UNDER ATTACK",
     "EVENT TREASURE ROOM FULL", "EVENT LIVING SPACE FULL", "EVENT FIGHT", "EVENT FIGHT TEST",
     "EVENT MAGIC FOE", "EVENT CHECK ROOMS FULL", "EVENT PAY DAY"]
  | process =>
    ["BUILD ALL ROOM 3x3", "BUILD ALL ROOM 4x4", "BUILD A PRISON ROOM", "BUILD A TORTURE ROOM",
     "BUILD A SCAVENGER ROOM", "BUILD A TEMPLE ROOM", "BUILD A GRAVEYARD ROOM",
     "BUILD A BARRACK ROOM", "BUILD A TREASURE ROOM", "BUILD A RESEARCH ROOM",
     "BUILD A HATCHERY", "BUILD A LAIR ROOM", "BUILD A TRAINING ROOM", "BUILD A WORKSHOP ROOM",
     "DIG TO ENTRANCE", "DIG TO GOLD", "BUILD A BRIDGE", "ATTACK PLAN 1", "ATTACK SAFE ATTACK"]

/-- How many numbers a plan of this sort has. -/
def width : PlanSort → Nat
  | check => 5
  | event => 2
  | process => 5

/-- The plans of this sort at the start, all numbers 0. -/
def initial (s : PlanSort) : List Plan := s.names.map fun n => ⟨n, List.replicate s.width 0⟩

end PlanSort

/-- A computer player. -/
structure Computer where
  model : Int
  globals : List Int
  checks : List Plan
  events : List Plan
  processes : List Plan
  deriving Repr, DecidableEq

namespace Computer

/-- How many global numbers a computer player has. -/
def globalCount : Nat := 6

/-- A computer player of this model with its starting plans. -/
def ofModel (model : Int) : Computer :=
  ⟨model, List.replicate globalCount 0, PlanSort.check.initial, PlanSort.event.initial,
    PlanSort.process.initial⟩

def plans (c : Computer) : PlanSort → List Plan
  | .check => c.checks
  | .event => c.events
  | .process => c.processes

/-- The computer player with the plans of one sort replaced. -/
def withPlans (c : Computer) (s : PlanSort) (ps : List Plan) : Computer :=
  match s with
  | .check => { c with checks := ps }
  | .event => { c with events := ps }
  | .process => { c with processes := ps }

/-- How many plans of the sort have this name, in any case. -/
def matching (c : Computer) (s : PlanSort) (name : String) : Nat :=
  (c.plans s).countP fun p => sameWord p.name name

/-- The computer player with the numbers of every plan of the name replaced. -/
def setPlan (c : Computer) (s : PlanSort) (name : String) (values : List Int) : Computer :=
  c.withPlans s ((c.plans s).map fun p => if sameWord p.name name then { p with values } else p)

end Computer

/-! ## Realms -/

/-- One item of a research list. -/
structure ResearchItem where
  kind : ResearchKind
  item : Nat
  amount : Int
  deriving Repr, DecidableEq

/-- What the game keeps for one player. -/
structure Realm where
  dungeon : Dungeon
  research : Array ResearchItem
  /-- A script has replaced the research list this player started with. -/
  researchReplaced : Bool
  imprison : Int
  flee : Int
  computer : Option Computer
  /-- Rooms given, each with the two numbers of the command. -/
  rooms : Catalogue (Int × Int)
  /-- Creatures given. -/
  creatures : Catalogue (Int × Int)
  /-- Powers given. -/
  powers : Catalogue (Int × Int)
  /-- Slabs of each room kind. -/
  slabs : Catalogue Int
  /-- Doors of each kind on the map. -/
  doors : Catalogue Int
  deriving Repr, DecidableEq

namespace Realm

def fresh : Realm := ⟨.fresh, #[], false, 0, 0, none, [], [], [], [], []⟩

instance : Inhabited Realm := ⟨fresh⟩

def onDungeon (f : Dungeon → Dungeon) (r : Realm) : Realm := { r with dungeon := f r.dungeon }

def giveRoom (room : Nat) (first second : Int) (r : Realm) : Realm :=
  { r with
    rooms := r.rooms.put room (first, second)
    dungeon := { r.dungeon with
      roomBuildable := updateAt r.dungeon.roomBuildable (slotOf roomTypes_pos room) fun _ => second } }

/-- The realm with a trap given. Only a number other than 0 changes how many can be
    placed. -/
def giveTrap (trap : Nat) (first second : Int) (r : Realm) : Realm :=
  let i := slotOf trapTypes_pos trap
  r.onDungeon fun d => { d with
    trapBuildable := updateAt d.trapBuildable i fun _ => first
    trapAmount := updateAt d.trapAmount i fun _ => second
    trapPlaceable := updateAt d.trapPlaceable i fun old => if second ≠ 0 then second else old }

/-- The realm with a door given. Only a number other than 0 changes how many can be
    placed. -/
def giveDoor (door : Nat) (first second : Int) (r : Realm) : Realm :=
  let i := slotOf doorTypes_pos door
  r.onDungeon fun d => { d with
    doorBuildable := updateAt d.doorBuildable i fun _ => first
    doorAmount := updateAt d.doorAmount i fun _ => second
    doorPlaceable := updateAt d.doorPlaceable i fun old => if second ≠ 0 then second else old }

def giveCreature (kind : Nat) (first second : Int) (r : Realm) : Realm :=
  { r with creatures := r.creatures.put kind (first, second) }

def givePower (power : Nat) (first second : Int) (r : Realm) : Realm :=
  { r with
    powers := r.powers.put power (first, second)
    dungeon := { r.dungeon with
      powerLevel := updateAt r.dungeon.powerLevel (slotOf powerTypes_pos power) fun _ => second } }

/-- The realm with the amount of a research item set, listed last if it is new. -/
def setResearch (kind : ResearchKind) (item : Nat) (amount : Int) (r : Realm) : Realm :=
  { r with research :=
      match r.research.findIdx? fun e => e.kind == kind && e.item == item with
      | some i => r.research.modify i fun e => { e with amount }
      | none => r.research.push ⟨kind, item, amount⟩ }

/-- The realm with a research item listed last. The first such order drops the list
    the player started with. -/
def orderResearch (kind : ResearchKind) (item : Nat) (amount : Int) (r : Realm) : Realm :=
  let kept := if r.researchReplaced then r.research else #[]
  { r with research := kept.push ⟨kind, item, amount⟩, researchReplaced := true }

def setTendency (t : Tendency) (value : Int) (r : Realm) : Realm :=
  match t with
  | .imprison => { r with imprison := value }
  | .flee => { r with flee := value }

/-- The realm with a computer player of this model, in place of an older one. -/
def setComputer (model : Int) (r : Realm) : Realm := { r with computer := some (.ofModel model) }

/-- The realm with the global numbers of its computer player set, if it has one. -/
def setGlobals (values : List Int) (r : Realm) : Realm :=
  { r with computer := r.computer.map fun c => { c with globals := values } }

/-- How many plans of its computer player have this name. -/
def matchingPlans (s : PlanSort) (name : String) (r : Realm) : Nat :=
  match r.computer with
  | some c => c.matching s name
  | none => 0

/-- The realm with the numbers of its computer player's plans of the name set. -/
def setPlan (s : PlanSort) (name : String) (values : List Int) (r : Realm) : Realm :=
  { r with computer := r.computer.map fun c => c.setPlan s name values }

end Realm

end DungeonScript
