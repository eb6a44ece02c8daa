import DungeonScript.Attempt
import DungeonScript.Effect
import DungeonScript.Measure
import DungeonScript.Slots

/-!
The level store: what a loaded script has registered. Conditions form a forest, each
naming the condition of the block around it. Spawns, tunnellers and effects wait for
a condition; parties are named groups of creatures; some conditions win or lose the
level. Every list has a limit and only grows while a script is loaded, so a number
given out on one line stays good on every later one. Quick texts are kept apart: they
outlive the rest of the store.
-/

namespace DungeonScript

/-! ## Conditions -/

/-- What a condition asks of a player each turn. -/
inductive Test where
  /-- Compares a measure, or one slot of it, with a number. -/
  | measure (what : Measure) (index : Nat) (comparison : Comparison) (value : Int)
  /-- Whether the player has entered the action point. -/
  | entered (actionPoint : Nat)
  deriving Repr, DecidableEq

/-- What became of a condition so far. -/
structure Status where
  /-- True this turn, and so are the conditions around it. -/
  met : Bool
  /-- Met on this or an earlier turn. -/
  wasMet : Bool
  /-- Met this turn and on no earlier one. -/
  newlyMet : Bool
  deriving Repr, DecidableEq, Inhabited

/-- The status of a condition that has not been asked yet. -/
def Status.unasked : Status := ⟨false, false, false⟩

/-- One condition. -/
structure Condition where
  /-- The condition of the block around it. -/
  parent : Option Nat
  players : Selector
  test : Test
  status : Status
  deriving Repr, DecidableEq

/-! ## Parties and spawns -/

/-- A creature to be: one member of a party. -/
structure Member where
  kind : Nat
  /-- Experience level, counted from 0. -/
  level : Nat
  gold : Int
  objective : Objective
  /-- Turns before the member pursues its objective. -/
  countdown : Int
  deriving Repr, DecidableEq

/-- A named group of creatures to be. -/
structure Party where
  name : String
  members : List Member
  deriving Repr, DecidableEq

def Party.isFull (p : Party) : Bool := memberLimit ≤ p.members.length

/-- What is to appear. -/
inductive Brood where
  | party (id : Nat) (copies : Int)
  | creatures (kind level : Nat) (gold copies : Int)
  deriving Repr, DecidableEq

/-- Creatures to appear, with owner and place. -/
structure Spawn where
  owner : Player
  place : Place
  brood : Brood
  deriving Repr, DecidableEq

/-- A tunneller to appear, perhaps with a party behind it. -/
structure Tunneller where
  owner : Player
  place : Place
  heading : Heading
  target : Int
  /-- Experience level, counted from 0. -/
  level : Nat
  gold : Int
  party : Option Nat
  deriving Repr, DecidableEq

/-! ## Stored entries -/

/-- How often a stored entry may fire. -/
structure Use where
  /-- Fires on every turn its condition is met. -/
  reusable : Bool
  /-- Has fired for good. -/
  spent : Bool
  deriving Repr, DecidableEq, Inhabited

namespace Use

def once : Use := ⟨false, false⟩

def everyTime : Use := ⟨true, false⟩

def fired (u : Use) : Use := if u.reusable then u else { u with spent := true }

end Use

/-- An entry that waits for a condition; without one it is always due. -/
structure Gated (α : Type) where
  condition : Option Nat
  use : Use
  item : α
  deriving Repr, DecidableEq

/-! ## The store -/

/-- All that a level script has registered. -/
structure Script where
  conditions : List Condition
  spawns : List (Gated Spawn)
  tunnellers : List (Gated Tunneller)
  effects : List (Gated Effect)
  parties : List Party
  /-- Conditions that win the level. -/
  wins : List Nat
  /-- Conditions that lose the level. -/
  losses : List Nat
  quickTexts : Vector String quickTextCount
  deriving Repr, DecidableEq

/-- The list with one more entry, unless the shelf is full. -/
def shelve {α : Type} (shelf : Shelf) (xs : List α) (x : α) : Attempt (List α) :=
  if shelf.limit ≤ xs.length then .failed (.full shelf) xs else .done (xs ++ [x])

theorem shelve_cases {α : Type} (shelf : Shelf) (xs : List α) (x : α) :
    xs.length < shelf.limit ∧ shelve shelf xs x = .done (xs ++ [x]) ∨
      shelve shelf xs x = .failed (.full shelf) xs := by
  unfold shelve
  split
  · exact .inr rfl
  · rename_i room
    exact .inl ⟨Nat.lt_of_not_le room, rfl⟩

theorem fault_of_shelve {α : Type} {shelf : Shelf} {xs : List α} {x : α} {f : Fault}
    (failed : (shelve shelf xs x).fault = some f) : f = .full shelf := by
  rcases shelve_cases shelf xs x with ⟨_, done⟩ | full
  · rw [done] at failed
    cases failed
  · rw [full] at failed
    exact (Option.some.inj failed).symm

namespace Script

def empty : Script := ⟨[], [], [], [], [], [], [], Vector.replicate _ ""⟩

instance : Inhabited Script := ⟨empty⟩

/-- The store without its entries; quick texts stay. -/
def clear (s : Script) : Script := { empty with quickTexts := s.quickTexts }

def clearQuickTexts (s : Script) : Script := { s with quickTexts := Vector.replicate _ "" }

def conditionMet (conditions : List Condition) (id : Nat) : Bool :=
  match conditions[id]? with
  | some c => c.status.met
  | none => false

/-- Whether an entry with this condition is due. Without a condition it always is. -/
def due (conditions : List Condition) : Option Nat → Bool
  | none => true
  | some id => conditionMet conditions id

/-- Registers a condition; the result names its number. -/
def addCondition (s : Script) (c : Condition) : Attempt (Nat × Script) :=
  (shelve .conditions s.conditions c).map fun conditions =>
    (s.conditions.length, { s with conditions })

def addSpawn (s : Script) (e : Gated Spawn) : Attempt Script :=
  (shelve .spawns s.spawns e).map fun spawns => { s with spawns }

def addTunneller (s : Script) (e : Gated Tunneller) : Attempt Script :=
  (shelve .tunnellers s.tunnellers e).map fun tunnellers => { s with tunnellers }

def addEffect (s : Script) (e : Gated Effect) : Attempt Script :=
  (shelve .effects s.effects e).map fun effects => { s with effects }

def addVerdict (s : Script) (v : Verdict) (condition : Nat) : Attempt Script :=
  match v with
  | .win => (shelve .wins s.wins condition).map fun wins => { s with wins }
  | .lose => (shelve .losses s.losses condition).map fun losses => { s with losses }

/-- The number of the party of this name, in any case. -/
def findParty? (s : Script) (name : String) : Option Nat :=
  s.parties.findIdx? fun p => sameWord p.name name

/-- Defines a party without members; the result names its number. -/
def createParty (s : Script) (name : String) : Attempt (Nat × Script) :=
  (shelve .parties s.parties ⟨name, []⟩).map fun parties => (s.parties.length, { s with parties })

def addMember (s : Script) (id : Nat) (m : Member) : Attempt Script :=
  match s.parties[id]? with
  | none => .failed (.undefinedParty (toString id)) s
  | some p =>
    if p.isFull then .failed (.partyFull p.name) s
    else .done { s with parties := s.parties.set id { p with members := p.members ++ [m] } }

def quickText (s : Script) (index : Nat) : String :=
  s.quickTexts[(slotOf quickTextCount_pos index).val]

/-- The part of a text that a quick message keeps. -/
def cutQuickText (text : String) : String :=
  String.ofList (text.toList.take (quickTextLength - 1))

/-- Stores a quick text, cut to its length. A number past the last has no effect. -/
def setQuickText (s : Script) (index : Nat) (text : String) : Script :=
  if h : index < quickTextCount then
    { s with quickTexts := s.quickTexts.set index (cutQuickText text) }
  else s

/-- Whether storing the text would replace a different one. -/
def replacesQuickText (s : Script) (index : Nat) (text : String) : Bool :=
  if h : index < quickTextCount then
    s.quickTexts[index] != "" && s.quickTexts[index] != cutQuickText text
  else false

end Script

end DungeonScript
