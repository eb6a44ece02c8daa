import DungeonScript.Bounded

/-!
Places: where on the map a command takes effect. Creatures can appear at action
points, hero gates and dungeon hearts; creature and room kinds are places only to
look at.
-/

namespace DungeonScript

/-- A place on the map a command refers to. -/
inductive Place where
  | nowhere
  | actionPoint (number : Nat)
  | heroGate (number : Nat)
  | heart (slot : Nat)
  | creatureKind (kind : Nat)
  | roomKind (kind : Nat)
  deriving Repr, DecidableEq, Inhabited

namespace Place

def isNowhere : Place → Bool
  | nowhere => true
  | _ => false

/-- Whether creatures can be created at places of this sort. -/
def canSpawn : Place → Bool
  | actionPoint _ | heroGate _ | heart _ => true
  | _ => false

def describe : Place → String
  | nowhere => "None"
  | actionPoint n => s!"ActionPoint({n})"
  | heroGate n => s!"HeroGate({n})"
  | heart p => s!"PlayersHeart({p})"
  | creatureKind k => s!"CreatureKind({k})"
  | roomKind k => s!"RoomKind({k})"

end Place

/-- A position in subtiles, as messages carry it. -/
structure Subtile where
  x : Nat
  y : Nat
  deriving Repr, DecidableEq, Inhabited

namespace Subtile

/-- The nearest position on the largest map to the numbers a script gives. -/
def ofArguments (x y : Int) : Subtile := ⟨(clamp 0 65535 x).toNat, (clamp 0 65535 y).toNat⟩

/-- The corner of the map, which messages without a position carry. -/
def origin : Subtile := ⟨0, 0⟩

def isOrigin (p : Subtile) : Bool := p.x == 0 && p.y == 0

end Subtile

end DungeonScript
