import DungeonScript.Fault

/-!
Remarks: what the reader of a script has to say about it. Errors drop a line or
report a value that is kept as it is; warnings report what was read otherwise
than written; the one piece of information is the account of shelves in use.
-/

namespace DungeonScript

/-- How much a remark weighs. -/
inductive Severity where
  | info | warning | error
  deriving Repr, DecidableEq

/-- How many entries of each shelf a loaded level uses. -/
structure ShelfUse where
  tunnellers : Nat
  spawns : Nat
  effects : Nat
  conditions : Nat
  parties : Nat
  deriving Repr, DecidableEq

/-- A bound of `RANDOM` whose digits are not a number of 64 bits. -/
structure OddBound where
  second : Bool
  negative : Bool
  digits : String
  /-- What the bound was taken for. -/
  value : Int
  deriving Repr, DecidableEq

/-- The wording of the report of an odd bound. -/
def OddBound.message (b : OddBound) : String :=
  let sign := if b.negative then "-" else ""
  s!"RANDOM {ScanFault.ordinal b.second} bound '{sign}{b.digits}' interpreted as {b.value}"

/-- What is said about a script. -/
inductive Remark where
  /-- A line is dropped, or a place on it counts as nowhere. -/
  | fault (f : Fault)
  /-- A highest level outside 1 to 10, stored all the same. -/
  | oddLevel (creature : String) (level : Int)
  /-- Imps and tunnellers are not to be replaced, but are. -/
  | oddSwap
  /-- A number argument with something after the number, or no number at all. -/
  | oddNumber (text : String) (value : Int)
  | oddBound (b : OddBound)
  /-- A setup command stands inside a condition block. -/
  | insideBlock (keyword : String)
  /-- A command is dropped with the block around it. -/
  | dropped (keyword : String)
  | partyAgain (name : String)
  | withoutEffect (keyword : String)
  | textTooLong
  | textReplaced (index : Nat)
  | nothingWins
  | missingEndif
  | resources (used : ShelfUse)
  deriving Repr, DecidableEq

namespace Remark

def severity : Remark → Severity
  | fault _ | oddLevel _ _ | oddSwap => .error
  | resources _ => .info
  | _ => .warning

def message : Remark → String
  | fault f => f.message
  | oddLevel creature level => s!"Invalid '{creature}' experience level, {level}"
  | oddSwap => "Unable to swap IMPs or TUNNELLERs"
  | oddNumber text value => s!"Numerical value '{text}' interpreted as {value}"
  | oddBound b => b.message
  | insideBlock keyword => s!"Command '{keyword}' placed inside a conditional block"
  | dropped keyword => s!"Command '{keyword}' dropped, its condition was not registered"
  | partyAgain name => s!"Party '{name}' defined again"
  | withoutEffect keyword => s!"Command '{keyword}' is only supported in Dungeon Keeper Beta"
  | textTooLong => s!"Message TEXT too long; truncating to {quickTextLength - 1} characters"
  | textReplaced index => s!"Quick message no {index} overwritten by different text."
  | nothingWins => "No WIN GAME conditions in script file."
  | missingEndif => "Missing ENDIF's in script file."
  | resources u =>
    s!"Used script resources: {u.tunnellers}/{tunnellerLimit} tunneller triggers, " ++
    s!"{u.spawns}/{spawnLimit} party triggers, {u.effects}/{effectLimit} script values, " ++
    s!"{u.conditions}/{conditionLimit} IF conditions, {u.parties}/{partyLimit} party definitions"

end Remark

/-- A remark and the script line it is about, 0 when it is about the whole. -/
structure Diagnostic where
  line : Nat
  remark : Remark
  deriving Repr, DecidableEq

end DungeonScript
