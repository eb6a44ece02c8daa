import DungeonScript.Journal

/-!
Invocations: what a command line asks for, once it is understood.
-/

namespace DungeonScript

/-- Settings said on the command line. -/
structure Overrides where
  /-- A number of 32 bits. -/
  seed : Option Nat
  /-- A counter of 64 bits. -/
  turns : Option Nat
  runAfterVictory : Bool
  deriving Repr, DecidableEq

namespace Overrides

def none : Overrides := ⟨.none, .none, false⟩

instance : Inhabited Overrides := ⟨none⟩

end Overrides

namespace CommandLine

/-- Why a command line leads to no command. -/
inductive Stop where
  /-- It asks for help or for the version. -/
  | asked
  /-- It cannot be understood. -/
  | misused
  deriving Repr, DecidableEq

/-- What is to be done with the script. -/
inductive Action where
  | check
  | run (overrides : Overrides)
  deriving Repr, DecidableEq

def Action.overrides : Action → Overrides
  | check => .none
  | run o => o

/-- A command line that is understood. -/
structure Invocation where
  config : Option String
  /-- How often more logging is asked for. -/
  verbosity : Nat
  script : String
  action : Action
  deriving Repr, DecidableEq

/-- The weight down to which an invocation logs. -/
def Invocation.least (i : Invocation) : Weight := if i.verbosity = 0 then .info else .debug

end CommandLine

end DungeonScript
