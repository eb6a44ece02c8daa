import DungeonScript.Limits
import DungeonScript.Text.Ascii

/-!
Players and selectors. Five slots play a level: keepers 0 to 3 and the heroes in
slot 4. A selector names one slot or all of them. Commands that act on all
players include the heroes; a condition on all players asks the keepers only.
-/

namespace DungeonScript

abbrev Player := Fin playerCount

def heroes : Player := 4

/-- Which players a command or condition is about. -/
inductive Selector where
  /-- One slot. A number past the last slot selects nobody. -/
  | one (slot : Nat)
  /-- Every player. -/
  | all
  deriving Repr, DecidableEq

namespace Selector

def allNumber : Nat := 8

/-- The selector a plain number stands for, as `SET_HATE` writes players. -/
def ofNumber? (id : Int) : Option Selector :=
  if id = allNumber then some all
  else if 0 ≤ id ∧ id < playerCount then some (one id.toNat)
  else none

def number : Selector → Nat
  | one slot => slot
  | all => allNumber

/-- Whether the selector stands for every player. -/
def isAll : Selector → Bool
  | one _ => false
  | all => true

def includes : Selector → Nat → Bool
  | one slot, p => slot == p
  | all, _ => true

/-- First slot and slot past the last of the players selected, where "all" ends
    before slot `allEnd`. A single slot out of range gives an empty span. -/
def bounds (allEnd : Nat) : Selector → Nat × Nat
  | one slot => (min slot playerCount, min (slot + 1) playerCount)
  | all => (0, min allEnd playerCount)

/-- The players selected, where "all" ends before slot `allEnd`. -/
def players (allEnd : Nat) (s : Selector) : List Player :=
  (List.finRange playerCount).filter fun p =>
    (s.bounds allEnd).1 ≤ p.val && p.val < (s.bounds allEnd).2

/-- Players a command acts on, the heroes included in "all". -/
def everyone (s : Selector) : List Player := s.players playerCount

/-- Players a condition asks, the heroes left out of "all". -/
def asked (s : Selector) : List Player := s.players heroes

def names : List (String × Selector) :=
  [("PLAYER0", one 0), ("PLAYER1", one 1), ("PLAYER2", one 2), ("PLAYER3", one 3),
   ("PLAYER_GOOD", one heroes), ("ALL_PLAYERS", all)]

/-- The selector a script word names, in any case. -/
def ofWord? (word : String) : Option Selector :=
  (names.find? fun e => e.1 == upperCase word).map (·.2)

end Selector

end DungeonScript
