import DungeonScript.Grammar
import DungeonScript.Journal
import DungeonScript.Script

/-!
Progress: how far the reading of a script has come. It holds what one line leaves to
the next: the open condition blocks, a reusable command that is announced, the level
version, and everything that has been reported so far. A block whose condition could
not be registered stays open as well, so that its `ENDIF` closes it and nothing inside
it takes effect.
-/

namespace DungeonScript

/-- An open condition block. -/
inductive Block where
  /-- The block of condition number `condition`. -/
  | registered (condition : Nat)
  /-- A block without a condition. What stands in it is dropped. -/
  | unregistered
  deriving Repr, DecidableEq

/-- What one line of a script leaves to the next. -/
structure Progress where
  levelVersion : Int
  /-- The open blocks, the innermost first. -/
  blocks : List Block
  /-- Lines for which a reusable command is still announced, the current one among
      them. -/
  reusableLines : Nat
  /-- The line being read, 0 outside of any. -/
  line : Nat
  diagnostics : List Diagnostic
  deriving Repr, DecidableEq

namespace Progress

/-- Before the first line. -/
def start : Progress := ⟨defaultLevelVersion, [], 0, 0, []⟩

instance : Inhabited Progress := ⟨start⟩

/-- Without open blocks and without an announced reusable command. -/
def closeAll (p : Progress) : Progress := { p with blocks := [], reusableLines := 0 }

def condition? (p : Progress) : Option Nat :=
  match p.blocks with
  | .registered id :: _ => some id
  | _ => none

def inBlock (p : Progress) : Bool := !p.blocks.isEmpty

/-- Whether the innermost block is one whose contents are dropped. -/
def drops (p : Progress) : Bool :=
  match p.blocks with
  | .unregistered :: _ => true
  | _ => false

/-- Whether what the line stores may fire again and again. -/
def reusable (p : Progress) : Bool := 0 < p.reusableLines

/-- Whether what the line does is stored for later. -/
def defers (p : Progress) : Bool := p.condition?.isSome || p.reusable

def gate {α : Type} (p : Progress) (item : α) : Gated α :=
  ⟨p.condition?, if p.reusable then .everyTime else .once, item⟩

def opened (p : Progress) (b : Block) : Progress := { p with blocks := b :: p.blocks }

/-- The innermost block closed, if one is open. -/
def closed (p : Progress) : Attempt Progress :=
  match p.blocks with
  | _ :: rest => .done { p with blocks := rest }
  | [] => .failed .unexpectedEndif p

/-- On a new line, an announcement of a reusable command is a line older. -/
def atLine (p : Progress) (line : Nat) : Progress :=
  { p with line, reusableLines := p.reusableLines - 1 }

/-- Outside of any line. -/
def outside (p : Progress) : Progress := { p with line := 0 }

/-- A remark put on record, with a note in the journal. -/
def report (r : Remark) (p : Progress) : Logged Progress := do
  let d : Diagnostic := ⟨p.line, r⟩
  Logged.note (.diagnostic d)
  return { p with diagnostics := p.diagnostics ++ [d] }

/-- How many of the diagnostics have this weight. -/
def countOf (s : Severity) (p : Progress) : Nat :=
  p.diagnostics.countP fun d => d.remark.severity = s

def hasErrors (p : Progress) : Bool :=
  p.diagnostics.any fun d => d.remark.severity = .error

end Progress

end DungeonScript
