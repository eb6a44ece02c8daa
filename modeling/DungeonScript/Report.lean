import DungeonScript.Game.Loading
import DungeonScript.Game.Playing
import DungeonScript.Library.Standard
import DungeonScript.Settings.Layers
import DungeonScript.Text.ControlSequence

/-!
Reports: what the two commands say about a script. `check` reads it and counts what is
wrong with it; `run` plays it as well and tells how the game stands at the end. Files
and variables of the environment are given, so that a report is a function of them.
-/

namespace DungeonScript

/-! ## The two commands -/

namespace Settings

/-- Reads a script into the world the settings describe. -/
def start (s : Settings) (text : String) : Logged Game := do
  let w ← s.world
  (Game.fresh s.options w).loadLevel text

/-- Reads a script and counts its errors and warnings; the result is the number of
    errors. -/
def check (s : Settings) (path text : String) : Logged Nat := do
  let g ← s.start text
  let errors := g.progress.countOf .error
  Logged.note (.checked path g.progress.levelVersion errors (g.progress.countOf .warning))
  return errors

/-- Reads a script and plays it until the game is over, at most the number of turns
    set. -/
def play (s : Settings) (text : String) : Logged Game := do
  let g ← s.start text
  g.playUntilOver s.options s.turns

end Settings

namespace World

/-- Whether this machine's player has won, or else lost. -/
def outcome (w : World) : List Note :=
  if w.won.contains w.myPlayer then [.outcome .win w.myPlayer]
  else if w.lost.contains w.myPlayer then [.outcome .lose w.myPlayer]
  else []

def treasury (w : World) (p : Player) : Note :=
  .treasury p (w.dungeon p).gold (w.dungeon p).creatures

def standing (w : World) : List Note :=
  [.stopped w.turn, .readings w.readings] ++ w.outcome
    ++ (List.finRange playerCount).map w.treasury
    ++ w.messages.toList.map .shown

end World

/-- Reads and plays a script and tells how the game stands at the end. -/
def Settings.run (s : Settings) (text : String) : Logged Unit := do
  let g ← s.play text
  ⟨(), g.world.standing⟩

/-! ## Answering a command line -/

/-- Why a command cannot be finished. -/
inductive Failure where
  | noSettings
  | noScript (path : String)
  | errorsFound (path : String) (count : Nat)
  deriving Repr, DecidableEq

def Failure.message : Failure → String
  | noSettings => "the settings cannot be read"
  | noScript path => s!"reading {path}"
  | errorsFound path count => s!"{path} has {count} script errors"

/-- How a command line ends. -/
inductive Ending where
  | done
  | stopped (s : CommandLine.Stop)
  | failed (f : Failure)
  deriving Repr, DecidableEq

def Ending.code : Ending → Nat
  | done | stopped .asked => 0
  | stopped .misused => 2
  | failed _ => 1

/-- A line of the log. -/
structure LogLine where
  weight : Weight
  text : String
  deriving Repr, DecidableEq

def Note.line (n : Note) : LogLine := ⟨n.weight, withoutControls n.text⟩

/-- How a command line ends, and what it logs. -/
structure Answer where
  ending : Ending
  log : List LogLine

namespace CommandLine

variable (lib : Library)

/-- The settings of an invocation, if they can be read. -/
def Invocation.settings? (i : Invocation) (s : Surroundings) : Option Settings :=
  Settings.load? lib s i.config i.action.overrides

/-- Carries out an invocation. The settings are read before the script. -/
def Invocation.carryOut (i : Invocation) (s : Surroundings) : Logged Ending :=
  match i.settings? lib s with
  | none => pure (.failed .noSettings)
  | some settings =>
    match s.file? i.script with
    | none => pure (.failed (.noScript i.script))
    | some bytes => do
      let text := Utf8.decode bytes.toList
      match i.action with
      | .check =>
        let errors ← settings.check i.script text
        return if errors = 0 then .done else .failed (.errorsFound i.script errors)
      | .run _ => do
        settings.run text
        return .done

/-- Answers a command line with the libraries that are given. -/
def answerWith (s : Surroundings) (arguments : List String) : Answer :=
  match lib.parse arguments with
  | .error stop => ⟨.stopped stop, []⟩
  | .ok i =>
    let r := i.carryOut lib s
    ⟨r.value, (r.notes.filter fun n => n.weight.appears i.least).map Note.line⟩

def answer : Surroundings → List String → Answer := answerWith .standard

end CommandLine

end DungeonScript
