import DungeonScript.Library
import DungeonScript.Settings

/-!
Where settings come from. A settings file is the lowest layer; variables of the
environment stand above it, and what the command line says stands above both. What no
layer says is as usual. Keys that are no setting are passed over; a setting that a
layer gives a value it cannot have makes the whole unusable.
-/

namespace DungeonScript

/-- A counter as a number with a sign, if it is one. -/
def signed? (n : Nat) : Option Int := if (n : Int) ≤ greatestNumber then some n else none

/-- Keys and values of what is said on the command line. The layers hold numbers with a
    sign, so a number of turns past the greatest of them is passed over. -/
def Overrides.entries (lib : Library) (o : Overrides) : List (List String × lib.Value) :=
  (o.seed.map fun (n : Nat) => (["engine", "seed"], lib.whole n)).toList
    ++ ((o.turns.bind signed?).map fun n => (["turns"], lib.whole n)).toList
    ++ (if o.runAfterVictory then [(["engine", "run_after_victory"], lib.truth true)] else [])

namespace Settings

variable (lib : Library)

/-! ## Reading the settings -/

def optionsOf? (v : lib.Value) : Option Options := do
  let seed ← lib.field v ⟨"seed", 0⟩ (lib.below? 4294967296) (some Options.usual.seed.toNat)
  let runAfterVictory ← lib.field v ⟨"run_after_victory", 1⟩ lib.truth? (some false)
  return ⟨.ofNat seed, runAfterVictory⟩

def mapPointOf? (v : lib.Value) : Option MapPoint := do
  let number ← lib.field v ⟨"number", 0⟩ (lib.below? 4294967296) none
  let x ← lib.field v ⟨"x", 1⟩ lib.number? none
  let y ← lib.field v ⟨"y", 2⟩ lib.number? none
  return ⟨number, (x, y)⟩

/-- A player's entry into an action point from its fields. -/
def activationOf? (v : lib.Value) : Option Activation := do
  let turn ← lib.field v ⟨"turn", 0⟩ (lib.below? 18446744073709551616) none
  let point ← lib.field v ⟨"action_point", 1⟩ (lib.below? 4294967296) none
  let player ← lib.field v ⟨"player", 2⟩ (lib.below? 256) none
  return ⟨turn, point, player⟩

def listOf? {α : Type} (read : lib.Value → Option α) (v : lib.Value) : Option (List α) :=
  (lib.items? v).bind fun vs => vs.mapM read

/-- A name and its number from a list of two. -/
def namedOf? (v : lib.Value) : Option (String × Nat) :=
  match lib.items? v with
  | some (name :: number :: _) => do
    let name ← lib.text? name
    let number ← lib.below? 4294967296 number
    return (name, number)
  | _ => none

def nameTableOf? (v : lib.Value) : Option NameTable := do
  return ⟨← lib.field v ⟨"entries", 0⟩ (listOf? lib (namedOf? lib)) none⟩

/-- Names from the fields of their tables. What is void names nothing anew. -/
def namesOf? (v : lib.Value) : Option Names :=
  match lib.view v with
  | .void => some usual.names
  | _ => do
    return {
      creatures := ← lib.field v ⟨"creatures", 0⟩ (nameTableOf? lib) none
      rooms := ← lib.field v ⟨"rooms", 1⟩ (nameTableOf? lib) none
      doors := ← lib.field v ⟨"doors", 2⟩ (nameTableOf? lib) none
      traps := ← lib.field v ⟨"traps", 3⟩ (nameTableOf? lib) none
      powers := ← lib.field v ⟨"powers", 4⟩ (nameTableOf? lib) none }

/-- The settings a configuration stands for, if every setting in it is one. -/
def ofValue? (v : lib.Value) : Option Settings := do
  return {
    options := ← lib.field v ⟨"engine", 0⟩ (optionsOf? lib) (some usual.options)
    turns := ← lib.field v ⟨"turns", 1⟩ (lib.below? 18446744073709551616) (some usual.turns)
    myPlayer := ← lib.field v ⟨"my_player", 2⟩ (lib.below? 256) (some usual.myPlayer)
    network := ← lib.field v ⟨"network_active", 3⟩ lib.truth? (some usual.network)
    income := ← lib.field v ⟨"income_per_turn", 4⟩ lib.number? (some usual.income)
    points := ← lib.field v ⟨"action_points", 5⟩ (listOf? lib (mapPointOf? lib))
      (some usual.points)
    gates := ← lib.field v ⟨"hero_gates", 6⟩ (listOf? lib (mapPointOf? lib)) (some usual.gates)
    activations := ← lib.field v ⟨"activations", 7⟩ (listOf? lib (activationOf? lib))
      (some usual.activations)
    names := ← lib.field v ⟨"names", 8⟩ (namesOf? lib) (some usual.names) }

/-! ## The layers -/

def files (around : Surroundings) (path : Option String) : List lib.Source :=
  (path.map (lib.file around.file?)).toList

/-- The configuration that a settings file, the environment and the command line make
    together, the lowest layer first. -/
def layered? (around : Surroundings) (path : Option String) (o : Overrides) :
    Option lib.Value :=
  lib.build? (files lib around path ++ [lib.environment around.environment]) (o.entries lib)

/-- The settings that a settings file, the environment and the command line make
    together. -/
def load? (around : Surroundings) (path : Option String) (o : Overrides) : Option Settings :=
  (layered? lib around path o).bind (ofValue? lib)

end Settings

end DungeonScript
