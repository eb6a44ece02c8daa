import DungeonScript.Journal
import DungeonScript.Names
import DungeonScript.World.Realm

/-!
The world: the game a script is run in. It keeps a realm for every player, the
creatures with their groups, the points and gates of the map, and what the player at
this machine has been shown. A change to one player's realm is written as a function
on realms (`onRealm`), a change to all players a selector names as that function
carried out player by player (`onEach`).
-/

namespace DungeonScript

/-- Settings of the whole game that scripts can change. -/
structure Rules where
  /-- Turns between the arrivals of creatures. -/
  generateSpeed : Nat
  bonusTime : Int
  countdownVisible : Bool
  deadReturnToPool : Bool
  musicTrack : Int
  deriving Repr, DecidableEq

namespace Rules

def fresh : Rules := ⟨500, 0, false, true, 0⟩

/-- The rules as a level finds them: no bonus time, no countdown, dead creatures
    returned. -/
def forNewLevel (r : Rules) : Rules :=
  { r with bonusTime := 0, countdownVisible := false, deadReturnToPool := true }

end Rules

/-- Statistics of a creature kind, the same for all players. -/
structure Stats where
  health : Int
  strength : Int
  armour : Int
  fear : Int
  deriving Repr, DecidableEq, Inhabited

/-- One creature. It keeps its number when it dies. -/
structure Creature where
  kind : Nat
  owner : Player
  place : Place
  gold : Int
  /-- Experience level, counted from 0. -/
  level : Nat
  alive : Bool
  /-- What it is after, and the turn it starts. -/
  objective : Option (Objective × Nat)
  /-- Where it digs to. -/
  heading : Option (Heading × Int)
  /-- The number of its group. -/
  group : Option Nat
  deriving Repr, DecidableEq

/-- A group of creatures, known by their numbers. -/
structure Group where
  leader : Nat
  members : List Nat
  deriving Repr, DecidableEq

/-- A point of the map that players can enter. -/
structure ActionPoint where
  coords : Int × Int
  /-- Bit `p` is set once player `p` has entered. -/
  activations : Nat
  deriving Repr, DecidableEq

/-- A player's entry into an action point, due on a turn. -/
structure Activation where
  turn : Nat
  point : Nat
  player : Nat
  deriving Repr, DecidableEq

/-- A part of the map shown to a player. Each span ends before its second number. -/
structure Revealed where
  player : Player
  x : Int × Int
  y : Int × Int
  deriving Repr, DecidableEq

/-- The game a script is run in. -/
structure World where
  turn : Nat
  /-- The player at this machine; a number past the last slot is nobody. -/
  myPlayer : Nat
  network : Bool
  names : Names
  realms : Vector Realm playerCount
  rules : Rules
  stats : Vector Stats creatureTypes
  /-- Creatures of each kind that may still arrive. -/
  pool : Vector Int creatureTypes
  creatures : Array Creature
  groups : Array Group
  points : Catalogue ActionPoint
  gates : Catalogue (Int × Int)
  swaps : Array (Newcomer × Nat)
  /-- The button that flashes, and for how long. -/
  flashing : Int × Int
  messages : Array Message
  revealed : Array Revealed
  won : List Nat
  lost : List Nat
  /-- Gold every keeper earns each turn. -/
  income : Int
  schedule : List Activation
  /-- How often conditions have read a dungeon. -/
  readings : Nat
  deriving Repr, DecidableEq

namespace World

/-- A game before its first turn, on a map without points or gates. -/
def fresh : World where
  turn := 0
  myPlayer := 0
  network := false
  names := .stock
  realms := .replicate _ .fresh
  rules := .fresh
  stats := .replicate _ ⟨0, 0, 0, 0⟩
  pool := .replicate _ 0
  creatures := #[]
  groups := #[]
  points := []
  gates := []
  swaps := #[]
  flashing := (0, 0)
  messages := #[]
  revealed := #[]
  won := []
  lost := []
  income := 0
  schedule := []
  readings := 0

instance : Inhabited World := ⟨fresh⟩

/-! ## Realms -/

def realm (w : World) (p : Player) : Realm := w.realms[p.val]

def dungeon (w : World) (p : Player) : Dungeon := (w.realm p).dungeon

/-- The world with one player's realm changed. -/
def onRealm (p : Player) (f : Realm → Realm) (w : World) : World :=
  { w with realms := updateAt w.realms p f }

/-- The world with one player's dungeon changed. -/
def onDungeon (p : Player) (f : Dungeon → Dungeon) (w : World) : World :=
  w.onRealm p (Realm.onDungeon f)

/-- The world with the realm of each of these players changed, in order. -/
def onEach (players : List Player) (f : Realm → Realm) (w : World) : World :=
  players.foldl (fun w p => w.onRealm p f) w

/-- The world with the dungeon of each of these players changed, in order. -/
def onEachDungeon (players : List Player) (f : Dungeon → Dungeon) (w : World) : World :=
  w.onEach players (Realm.onDungeon f)

theorem realm_onRealm_self (w : World) (p : Player) (f : Realm → Realm) :
    (w.onRealm p f).realm p = f (w.realm p) := by
  simp only [realm, onRealm, getElem_updateAt_self]

theorem realm_onRealm_of_ne (w : World) {p q : Player} (f : Realm → Realm) (h : p ≠ q) :
    (w.onRealm p f).realm q = w.realm q := by
  simp only [realm, onRealm]
  exact getElem_updateAt_of_ne _ _ _ fun hv => h (Fin.ext hv)

/-! ## The map -/

def heartCoords (p : Player) : Int × Int := (20 + 40 * p.val, 20 + 40 * p.val)

def playerAt? (slot : Nat) : Option Player :=
  if h : slot < playerCount then some ⟨slot, h⟩ else none

/-- Whether there is an action point of this number. -/
def hasPoint (w : World) (number : Nat) : Bool := w.points.has number

/-- Whether there is a hero gate of this number. -/
def hasGate (w : World) (number : Nat) : Bool := w.gates.has number

/-- The map with an action point nobody has entered. -/
def addPoint (w : World) (number : Nat) (coords : Int × Int) : World :=
  { w with points := w.points.put number ⟨coords, 0⟩ }

def addGate (w : World) (number : Nat) (coords : Int × Int) : World :=
  { w with gates := w.gates.put number coords }

/-- Who has entered an action point, a bit for each player. -/
def activations (w : World) (number : Nat) : Nat :=
  match w.points.get? number with
  | some p => p.activations
  | none => 0

/-- The world with nobody having entered the action point. -/
def resetPoint (w : World) (number : Nat) : World :=
  match w.points.get? number with
  | some p => { w with points := w.points.put number { p with activations := 0 } }
  | none => w

/-- The bit of a player among the activations; players past the width have none. -/
def activationBit (player : Nat) : Nat := if player < 32 then 1 <<< player else 0

def activate (w : World) (number player : Nat) : Logged World :=
  match w.points.get? number with
  | some p => do
    let activations := p.activations ||| activationBit player
    return { w with points := w.points.put number { p with activations } }
  | none => do
    Logged.note (.noPointToActivate number)
    return w

/-- Whether the player has entered the action point; the number of all players asks
    for anyone. -/
def enteredBy (w : World) (number player : Nat) : Bool :=
  if player = Selector.allNumber then w.activations number != 0
  else w.activations number &&& activationBit player != 0

/-- Where on the map a place is, if it is a point, a gate or a heart. -/
def coordsOf? (w : World) : Place → Option (Int × Int)
  | .actionPoint n => (w.points.get? n).map (·.coords)
  | .heroGate n => w.gates.get? n
  | .heart slot => (playerAt? slot).map heartCoords
  | _ => none

/-! ## Time -/

/-- A player's entry into an action point, put off until a turn. -/
def scheduleActivation (w : World) (a : Activation) : World :=
  { w with schedule := w.schedule ++ [a] }

def keepers : List Player := Selector.all.asked

/-- The entries into action points that are due, one after the other. -/
def activateAll : List Activation → World → Logged World
  | [], w => pure w
  | a :: rest, w => do
    Logged.note (.entersPoint w.turn a.player a.point)
    let w ← w.activate a.point a.player
    activateAll rest w

/-- The game one turn on: keepers earn, and entries that are due happen. -/
def advance (w : World) : Logged World :=
  let w := { w with turn := w.turn + 1 }
  let w := if w.income = 0 then w else w.onEachDungeon keepers (·.addGold w.income)
  activateAll (w.schedule.filter fun a => a.turn == w.turn) w

/-! ## The player at this machine -/

/-- Whether this machine's player has won or lost. -/
def decided (w : World) : Bool := w.won.contains w.myPlayer || w.lost.contains w.myPlayer

/-- Whether what is meant for the players named is shown at this machine. -/
def shownHere (w : World) (s : Selector) : Bool :=
  decide (w.myPlayer < playerCount) && s.includes w.myPlayer

/-- The world with a message shown, if it is meant for this machine's player. -/
def display (w : World) (s : Selector) (m : Message) : World :=
  if w.shownHere s then { w with messages := w.messages.push m } else w

/-- The world with a verdict on a player, once. -/
def pronounce (w : World) (v : Verdict) (player : Nat) : World :=
  match v with
  | .win => if w.won.contains player then w else { w with won := w.won ++ [player] }
  | .lose => if w.lost.contains player then w else { w with lost := w.lost ++ [player] }

def forNewLevel (w : World) : World :=
  { w.onEachDungeon Selector.all.everyone Dungeon.forNewLevel with
    flashing := (0, 0)
    rules := w.rules.forNewLevel }

end World

end DungeonScript
