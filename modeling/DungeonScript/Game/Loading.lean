import DungeonScript.Game.Register
import DungeonScript.Text.Lines

/-!
Loading a level. A text is read twice: the preload pass takes the few commands that
must be known before anything else, the level version among them, which selects the
grammar of the full pass; the full pass takes all others. A line with a fault is
reported and dropped, and reading goes on with the next line.
-/

namespace DungeonScript

namespace Game

/-! ## One line -/

/-- A line that was not taken: an opening keyword opens a block all the same, one
    whose contents are dropped. -/
def passOver (v : Verb) (g : Game) : Game :=
  if v.opensCondition then { g with progress := g.progress.opened .unregistered } else g

/-- Finds out what command a line comes to, and registers it. Where that fails, reading
    goes on with what the attempt has left of the game. -/
def carryOut (l : ScriptLine) (g : Game) : Logged (Attempt Game) := do
  let r := Command.resolve g.world g.script l
  let g ← hear r.asides g
  match r.outcome with
  | .error f => return .failed f (g.passOver l.verb)
  | .ok c =>
    let taken ← g.register c
    match taken.fault with
    | some f => return .failed f (taken.left.passOver l.verb)
    | none => return .done taken.left

/-- Takes a line of the current pass. Inside a block without a condition only an
    `ENDIF` is taken. -/
def takeLine (l : ScriptLine) (g : Game) : Logged (Attempt Game) := do
  let g ←
    if l.verb.isSetupOnly && g.progress.inBlock then g.report (.insideBlock l.usage.keyword)
    else pure g
  if g.progress.drops && l.verb ≠ .endif then
    let g ← (g.passOver l.verb).report (.dropped l.usage.keyword)
    return .done g
  else g.carryOut l

/-- Reads the text of a line and takes it, if it is for this pass. -/
def scanLine (pass : Pass) (text : List Char) (g : Game) : Logged (Attempt Game) := do
  let r := ScriptLine.read g.progress.levelVersion pass text g.dice
  let g ← hear r.asides { g with dice := r.dice }
  match r.outcome with
  | .error f => return .failed f g
  | .ok none => return .done g
  | .ok (some l) => g.takeLine l

/-- Reads a numbered line; a fault goes on record. -/
def loadLine (pass : Pass) (line : Nat × List Char) (g : Game) : Logged Game := do
  let taken ← scanLine pass line.2 { g with progress := g.progress.atLine line.1 }
  match taken.fault with
  | some f => taken.left.report (.fault f)
  | none => return taken.left

/-! ## A whole text -/

def loadLines (pass : Pass) : List (Nat × List Char) → Game → Logged Game
  | [], g => pure g
  | line :: rest, g => do
    let g ← loadLine pass line g
    loadLines pass rest g

def runPass (pass : Pass) (text : String) (g : Game) : Logged Game := do
  let g ← loadLines pass (scriptLines text) g
  return { g with progress := g.progress.outside }

/-- Carries out the commands that must be known before the level is set up. The
    record of an earlier script is dropped, and so are its quick texts. -/
def preload (text : String) (g : Game) : Logged Game :=
  runPass .preload text
    { g with progress := .start, script := g.script.clearQuickTexts }

def cleared (g : Game) : Game :=
  { g with
    world := g.world.forNewLevel
    script := g.script.clear
    progress := g.progress.closeAll }

def shelfUse (s : Script) : ShelfUse where
  tunnellers := s.tunnellers.length
  spawns := s.spawns.length
  effects := s.effects.length
  conditions := s.conditions.length
  parties := s.parties.length

/-- Puts a remark on record where the condition holds. -/
def reportIf (c : Bool) (r : Remark) (g : Game) : Logged Game := if c then g.report r else pure g

/-- What is said of a script as a whole once it is read. -/
def sumUp (g : Game) : Logged Game := do
  let g ← g.reportIf g.script.wins.isEmpty .nothingWins
  let g ← g.reportIf g.progress.inBlock .missingEndif
  g.report (.resources (shelfUse g.script))

/-- Reads the whole script into an emptied store. -/
def load (text : String) (g : Game) : Logged Game := do
  let g ← runPass .full text g.cleared
  g.sumUp

/-- Both passes: the text becomes the level of the game. -/
def loadLevel (text : String) (g : Game) : Logged Game := do
  let g ← g.preload text
  g.load text

end Game

end DungeonScript
