import DungeonScript.World.Measuring

/-!
The sweep: once a turn every condition is asked again, in the order of its number. A
condition inside another is asked only when the other is met. Since a block is always
opened after the block around it, one pass in order settles them all.
-/

namespace DungeonScript

namespace Status

/-- The status after a turn on which the condition was asked. -/
def asked (s : Status) (holds : Bool) : Status :=
  if holds && !s.wasMet then ⟨true, true, true⟩ else ⟨holds, s.wasMet, false⟩

/-- The status after a turn on which the condition around it was not met. -/
def passedOver (s : Status) : Status := { s with met := false }

end Status

/-- What a sweep has made of some conditions, and the readings it took. -/
structure Swept where
  conditions : List Condition
  readings : Nat

/-- One condition asked, or passed over. The conditions before it have been swept. -/
def Condition.sweep (w : World) (swept after : List Condition) (c : Condition) :
    Logged (Condition × Nat) :=
  if Script.due (swept ++ c :: after) c.parent then do
    let answer := w.ask c.test c.players.asked
    if answer.1 && !c.status.wasMet then Logged.note (.firstMet swept.length)
    return ({ c with status := c.status.asked answer.1 }, answer.2)
  else pure ({ c with status := c.status.passedOver }, 0)

/-- The conditions that follow those already swept. -/
def sweepAfter (w : World) (swept : List Condition) (readings : Nat) :
    List Condition → Logged Swept
  | [] => pure ⟨swept, readings⟩
  | c :: rest => do
    let (c, n) ← c.sweep w swept rest
    sweepAfter w (swept ++ [c]) (readings + n) rest

def sweep (w : World) (conditions : List Condition) : Logged Swept :=
  sweepAfter w [] 0 conditions

end DungeonScript
