import DungeonScript.Dice
import DungeonScript.Remark
import DungeonScript.World.Message

/-!
The journal: what a game logs, in order. A `Note` is one entry, known by its cause;
its weight and wording are functions of the cause. `Logged` pairs a result with the
notes taken on the way. Notes never decide anything: the value of a composition
depends on values alone (`value_bind`), and its notes are the notes of its parts in
order (`notes_bind`).
-/

namespace DungeonScript

/-- How much a note weighs, heaviest first. -/
inductive Weight where
  | error | warn | info | debug
  deriving Repr, DecidableEq

namespace Weight

def label : Weight → String
  | error => "ERROR"
  | warn => "WARN"
  | info => "INFO"
  | debug => "DEBUG"

/-- Position in the order of weights, heaviest first. -/
def rank : Weight → Nat
  | error => 1
  | warn => 2
  | info => 3
  | debug => 4

/-- Whether a note of this weight appears in a log that goes down to `least`. -/
def appears (w least : Weight) : Bool := w.rank ≤ least.rank

end Weight

/-- One entry of the journal. -/
inductive Note where
  -- reading a script
  | diagnostic (d : Diagnostic)
  | levelVersion (version : Int)
  | caution (c : Caution)
  | plansAltered (count : Nat) (sort : PlanSort)
  -- creatures
  | notCreated (kind : Nat) (place : Place)
  | noDungeonToDig
  | unreachable (heading : Heading) (target : Int)
  | noTunnellerLeader
  | noTunnellerGroup
  | addingParty (name : String)
  | missingParty (id : Nat)
  | addingCreature (kind : Nat)
  | addingTunnellerParty (name : String)
  | addingTunneller (heading : Heading)
  | killed (count : Nat) (kind : Nat) (player : Nat)
  -- effects
  | revealing (x y : Int) (player : Nat)
  | noCoordinates (place : Place)
  | creatureUnavailable (kind : Nat)
  | powerUnavailable (power : Nat)
  -- the turn
  | firstMet (condition : Nat)
  | verdict (v : Verdict) (condition : Nat) (player : Nat)
  | entersPoint (turn : Nat) (player : Nat) (point : Nat)
  | noPointToActivate (point : Nat)
  -- settings and reports
  | activationIgnored (player : Nat) (turn : Nat)
  | checked (path : String) (levelVersion : Int) (errors warnings : Nat)
  | stopped (turn : Nat)
  | readings (count : Nat)
  | outcome (v : Verdict) (player : Nat)
  | treasury (player : Nat) (gold creatures : Int)
  | shown (m : Message)
  deriving Repr, DecidableEq

namespace Note

def weight : Note → Weight
  | diagnostic d => match d.remark.severity with
    | .error => .error
    | .warning => .warn
    | .info => .info
  | notCreated _ _ | noTunnellerLeader | noTunnellerGroup | missingParty _ => .error
  | caution _ | noDungeonToDig | unreachable _ _ | noCoordinates _ | creatureUnavailable _
  | powerUnavailable _ | noPointToActivate _ | activationIgnored _ _ => .warn
  | levelVersion _ | checked _ _ _ _ | stopped _ | outcome _ _ | treasury _ _ _ => .info
  | _ => .debug

def text : Note → String
  | diagnostic d => match d.remark.severity with
    | .info => d.remark.message
    | _ => s!"Script (line {d.line}): {d.remark.message}"
  | levelVersion version => s!"Level files version {version}."
  | caution c => c.message
  | plansAltered count sort => s!"Altered {count} computer {sort.label}s"
  | notCreated kind place => s!"Couldn't create creature breed {kind} at location {place.describe}"
  | noDungeonToDig => "Tunneller has no dungeon to dig to"
  | unreachable heading target =>
    s!"Couldn't send tunneller to {Vocabulary.title heading} {target}"
  | noTunnellerLeader => "Couldn't create tunnelling group leader"
  | noTunnellerGroup => "Couldn't create creature group"
  | addingParty name => s!"Adding party {name}"
  | missingParty id => s!"Party {id} does not exist"
  | addingCreature kind => s!"Adding creature {kind}"
  | addingTunnellerParty name => s!"Adding tunneller party {name}"
  | addingTunneller heading => s!"Adding tunneller, heading {Vocabulary.title heading}"
  | killed count kind player => s!"Killed {count} of creature {kind} owned by player {player}"
  | revealing x y player => s!"Revealing around ({x},{y}) for player {player}"
  | noCoordinates place => s!"Can't decode location {place.describe}"
  | creatureUnavailable kind => s!"Setting creature {kind} availability failed."
  | powerUnavailable power => s!"Setting magic {power} availability failed."
  | firstMet condition => s!"Condition {condition} met for the first time"
  | verdict .win condition player => s!"Win condition {condition} met for player {player}"
  | verdict .lose condition player => s!"Lose condition {condition} met for player {player}"
  | entersPoint turn player point =>
    s!"Turn {turn}: player {player} enters action point {point}"
  | noPointToActivate point => s!"No action point {point} to activate"
  | activationIgnored player turn => s!"Ignoring activation by player {player} at turn {turn}"
  | checked path version errors warnings =>
    s!"{path}: level version {version}, {errors} errors, {warnings} warnings"
  | stopped turn => s!"Stopped at turn {turn}"
  | readings count => s!"Dungeon state read {count} times"
  | outcome .win player => s!"Player {player} won"
  | outcome .lose player => s!"Player {player} lost"
  | treasury player gold creatures => s!"Player {player}: {gold} gold, {creatures} creatures"
  | shown m => s!"Shown: {m.describe}"

end Note

/-- A result and the notes taken on the way to it. -/
structure Logged (α : Type) where
  value : α
  notes : List Note
  deriving Repr

namespace Logged

variable {α β : Type}

instance : Monad Logged where
  pure a := ⟨a, []⟩
  bind x f :=
    let y := f x.value
    ⟨y.value, x.notes ++ y.notes⟩

def note (n : Note) : Logged Unit := ⟨(), [n]⟩

@[simp] theorem value_pure (a : α) : (pure a : Logged α).value = a := rfl

@[simp] theorem notes_pure (a : α) : (pure a : Logged α).notes = [] := rfl

@[simp] theorem value_bind (x : Logged α) (f : α → Logged β) :
    (x >>= f).value = (f x.value).value := rfl

@[simp] theorem notes_bind (x : Logged α) (f : α → Logged β) :
    (x >>= f).notes = x.notes ++ (f x.value).notes := rfl

@[simp] theorem value_map (f : α → β) (x : Logged α) : (f <$> x).value = f x.value := rfl

@[simp] theorem value_note (n : Note) : (note n).value = () := rfl

@[simp] theorem notes_note (n : Note) : (note n).notes = [n] := rfl

end Logged

end DungeonScript
