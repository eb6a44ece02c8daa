import DungeonScript.Command
import DungeonScript.Game
import DungeonScript.World.Changing
import DungeonScript.World.Spawning

/-!
Registering a command: what a line does once it is understood. Inside a condition
block, and after the announcement of a reusable command, spawns, tunnellers and
effects are stored; elsewhere they act at once. Setup commands always act at once.
A command that cannot be registered hands back the game in the state it has come to by
then.
-/

namespace DungeonScript

namespace Game

/-- The game with what the attempt left of its store. -/
def withScript (g : Game) (s : Attempt Script) : Attempt Game := s.map fun script => { g with script }

/-- The game after something happened in its world. -/
def withWorld (g : Game) (w : Logged World) : Logged (Attempt Game) := do
  let world ← w
  return .done { g with world }

/-- Registers a condition and opens its block. -/
def openCondition (players : Selector) (test : Test) (g : Game) : Attempt Game :=
  let s := g.script.addCondition ⟨g.progress.condition?, players, test, .unasked⟩
  let g := { g with script := s.left.2 }
  match s.fault with
  | some f => .failed f g
  | none => .done { g with progress := g.progress.opened (.registered s.left.1) }

def closeCondition (g : Game) : Attempt Game :=
  g.progress.closed.map fun progress => { g with progress }

/-- Defines a party. A name that is taken is reported and changes nothing. -/
def createParty (name : String) (g : Game) : Logged (Attempt Game) :=
  match g.script.findParty? name with
  | some _ => .done <$> g.report (.partyAgain name)
  | none => pure <| g.withScript <| (g.script.createParty name).map (·.2)

def addToParty (party : String) (m : Member) (g : Game) : Attempt Game :=
  match g.script.findParty? party with
  | some id => g.withScript (g.script.addMember id m)
  | none => .failed (.undefinedParty party) g

/-- Lets the condition around the line win or lose the level. -/
def addVerdict (v : Verdict) (g : Game) : Attempt Game :=
  match g.progress.condition? with
  | some id => g.withScript (g.script.addVerdict v id)
  | none => .failed (.noCondition v) g

def setUp (s : Setup) (g : Game) : Logged (Attempt Game) := do
  let w ← s.apply g.world
  return w.map fun world => { g with world }

/-- Registers a command, or says why it cannot be registered. -/
def register (c : Command) (g : Game) : Logged (Attempt Game) :=
  match c with
  | .condition players test => pure <| g.openCondition players test
  | .endif => pure g.closeCondition
  | .effect e =>
    if g.progress.defers then pure <| g.withScript (g.script.addEffect (g.progress.gate e))
    else g.withWorld (e.apply g.script g.world)
  | .spawn s =>
    if g.progress.defers then pure <| g.withScript (g.script.addSpawn (g.progress.gate s))
    else g.withWorld (World.spawn g.script.parties s g.world)
  | .tunneller t =>
    if g.progress.defers then pure <| g.withScript (g.script.addTunneller (g.progress.gate t))
    else g.withWorld (World.sendOut g.script.parties t g.world)
  | .createParty name => g.createParty name
  | .addToParty party m => pure <| g.addToParty party m
  | .setup s => g.setUp s
  | .verdict v => pure <| g.addVerdict v
  | .nextReusable => pure <| .done { g with progress := { g.progress with reusableLines := 2 } }
  | .levelVersion version => do
    Logged.note (.levelVersion version)
    return .done { g with progress := { g.progress with levelVersion := version } }
  | .withoutEffect keyword => .done <$> g.report (.withoutEffect keyword)
  | .comment => pure <| .done g

end Game

end DungeonScript
