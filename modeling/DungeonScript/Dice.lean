/-!
Dice. Random numbers come from two multiplicative series of 32-bit words: one for
what changes the game, one for what only looks different. A roll on one never
moves the other. A roll of width 0 is 0 and moves nothing.
-/

namespace DungeonScript

/-- One series, known by its current word. -/
structure Series where
  seed : UInt32
  deriving Repr, DecidableEq, Inhabited

namespace Series

def turn13 (w : UInt32) : UInt32 := (w >>> 13) ||| (w <<< 19)

def next (s : Series) : Series := ⟨turn13 (s.seed * 9377 + 9439)⟩

/-- A number below `width`, and the series after the roll. -/
def roll (s : Series) (width : Nat) : Nat × Series :=
  if width = 0 then (0, s) else (s.next.seed.toNat % width, s.next)

theorem roll_lt (s : Series) {width : Nat} (h : 0 < width) : (s.roll width).1 < width := by
  unfold roll
  rw [if_neg (by omega)]
  exact Nat.mod_lt _ h

end Series

/-- The two series of a game. -/
structure Dice where
  /-- Decides what happens; shared by all players of a network game. -/
  action : Series
  /-- Decides what only looks different. -/
  display : Series
  deriving Repr, DecidableEq, Inhabited

/-- Why a roll between two bounds was not what it seems. -/
inductive Caution where
  /-- The upper bound lies below the lower one. -/
  | reversed (lo hi : Int)
  /-- The bounds are further apart than one roll can reach. -/
  | tooWide (lo hi : Int)
  deriving Repr, DecidableEq

namespace Caution

def message : Caution → String
  | reversed lo hi => s!"range_inclusive({lo},{hi}) attempted"
  | tooWide lo hi => s!"range_inclusive({lo},{hi}) span too wide"

end Caution

namespace Dice

/-- Both series started from one seed. -/
def ofSeed (seed : UInt32) : Dice := ⟨⟨seed⟩, ⟨seed⟩⟩

/-- A number below `width` from the action series. -/
def rollAction (d : Dice) (width : Nat) : Nat × Dice :=
  let r := d.action.roll width
  (r.1, { d with action := r.2 })

/-- A number below `width` from the display series. -/
def rollDisplay (d : Dice) (width : Nat) : Nat × Dice :=
  let r := d.display.roll width
  (r.1, { d with display := r.2 })

/-- The widest roll. -/
def widest : Nat := 4294967295

/-- What a roll between two bounds gives. -/
structure Rolled where
  value : Int
  dice : Dice
  caution : Option Caution

/-- A number from `lo` to `hi` from the action series. Reversed bounds give `lo`
    without a roll; bounds too far apart give a number near `lo`. -/
def between (d : Dice) (lo hi : Int) : Rolled :=
  if hi < lo then ⟨lo, d, some (.reversed lo hi)⟩
  else if hi - lo + 1 ≤ widest then
    let r := d.rollAction (hi - lo + 1).toNat
    ⟨lo + r.1, r.2, none⟩
  else
    let r := d.rollAction widest
    ⟨lo + r.1, r.2, some (.tooWide lo hi)⟩

end Dice

end DungeonScript
