import DungeonScript.Proofs.Script.Firing

/-!
Creatures and their groups. `groupAt` is the group that a creature is put down as being in. It is
told here what becomes of it when a creature appears (`OneMore`), where one can (`Receives`), and when
a creature joins another. The group of that one is looked up, or made first (`founded`); whoever
joins is put down as being in it and is the last of its members (`enlist`).
-/

namespace DungeonScript

namespace World

/-! ## Creatures and their groups -/

/-- What group a creature is in, if there is the creature. -/
def groupAt (w : World) (id : Nat) : Option (Option Nat) := (w.creature? id).map (·.group)

theorem lt_of_groupAt {w : World} {id : Nat} {g : Option Nat} (here : w.groupAt id = some g) :
    id < w.creatures.size := by
  obtain ⟨c, found, _⟩ := Option.map_eq_some_iff.1 here
  exact (Array.getElem?_eq_some_iff.1 found).1

theorem groupAt_onCreature (w : World) (id : Nat) {f : Creature → Creature}
    (same : ∀ c, (f c).group = c.group) (j : Nat) : (w.onCreature id f).groupAt j = w.groupAt j := by
  show ((w.creatures.modify id f)[j]?).map (·.group) = (w.creatures[j]?).map (·.group)
  rw [Array.getElem?_modify]
  split
  · cases w.creatures[j]? with
    | none => rfl
    | some c => exact congrArg some (same c)
  · rfl

theorem groupAt_setGroup {w : World} {id : Nat} {old : Option Nat} (here : w.groupAt id = some old)
    (g j : Nat) : (w.onCreature id fun c => { c with group := some g }).groupAt j =
      if j = id then some (some g) else w.groupAt j := by
  show ((w.creatures.modify id _)[j]?).map (·.group) = _
  rw [Array.getElem?_modify]
  by_cases same : j = id
  · subst same
    obtain ⟨c, found, _⟩ := Option.map_eq_some_iff.1 here
    have found : w.creatures[j]? = some c := found
    rw [if_pos rfl, if_pos rfl, found]
    rfl
  · rw [if_neg fun h => same h.symm, if_neg same]
    rfl

/-- `w'` has one creature more than `w`, which is in no group. -/
structure OneMore (w w' : World) : Prop where
  groups : w'.groups = w.groups
  size : w'.creatures.size = w.creatures.size + 1
  newest : w'.groupAt w.creatures.size = some none
  others : ∀ j < w.creatures.size, w'.groupAt j = w.groupAt j

/-- Whether a creature that is to appear at a place will. -/
def admits (w : World) (place : Place) : Bool := place.canSpawn && w.spawnAllowed place

theorem spawnAllowed_unpeopled (w : World) (place : Place) :
    w.unpeopled.spawnAllowed place = w.spawnAllowed place := by
  cases place with
  | heart slot =>
    have dungeon (p : Player) : w.unpeopled.dungeon p = (w.dungeon p).unpeopled :=
      congrArg Realm.dungeon (w.realm_unpeopled p)
    simp only [spawnAllowed, dungeon]
    rfl
  | _ => rfl

theorem admits_of_unpeopled {w w' : World} (same : w'.unpeopled = w.unpeopled) (place : Place) :
    w'.admits place = w.admits place := by
  unfold admits
  rw [← spawnAllowed_unpeopled w', same, spawnAllowed_unpeopled]

theorem createCreature_oneMore (w : World) (owner : Player) (kind : Nat) (place : Place) :
    OneMore w ({ w with creatures := w.creatures.push (newborn owner kind place) }.onDungeon owner
      fun d => { d with creatures := d.creatures + 1 }) where
  groups := rfl
  size := Array.size_push _
  newest := by
    show ((w.creatures.push _)[w.creatures.size]?).map (·.group) = some none
    rw [Array.getElem?_push_size]
    rfl
  others j old := by
    show ((w.creatures.push _)[j]?).map (·.group) = (w.creatures[j]?).map (·.group)
    rw [Array.getElem?_push, if_neg (Nat.ne_of_lt old)]

/-- How many creatures there are numbers for, apart from those that have one. -/
def room (w : World) : Nat := creatureNumbers - w.creatures.size

/-- A creature that is to appear at the place does: it can, and there is a number for it. -/
def Receives (w : World) (place : Place) : Prop := w.admits place = true ∧ 0 < w.room

theorem not_receives_of_barred {w : World} {place : Place} (barred : w.admits place = false) :
    ¬w.Receives place := fun receives => Bool.false_ne_true (barred.symm.trans receives.1)

theorem not_receives_of_full {w : World} (full : w.room = 0) (place : Place) :
    ¬w.Receives place := fun receives => Nat.ne_of_gt receives.2 full

/-- Where nobody can appear, or all numbers are taken, nobody does. -/
theorem spawnCreature_of_not_receives {w : World} {place : Place} (not : ¬w.Receives place)
    (owner : Player) (kind : Nat) (gold : Int) (level : Nat) :
    (w.spawnCreature owner kind place gold level).value = (w, none) := by
  unfold spawnCreature
  cases can : place.canSpawn with
  | false => rfl
  | true =>
    have nobody : w.createCreature owner kind place = (w, none) := by
      refine if_neg fun ⟨allowed, numbers⟩ => not ⟨?_, Nat.sub_pos_of_lt numbers⟩
      rw [admits, can, allowed]
      rfl
    rw [if_pos rfl, nobody]
    rfl

/-! ## Joining -/

/-- A creature that is in no member list, put into a group. -/
def enlist (w : World) (id g : Nat) : World :=
  (w.onGroup g fun grp => { grp with members := grp.members ++ [id] }).onCreature id
    fun c => { c with group := some g }

/-- A new group, with a creature that was in none. -/
def founded (w : World) (id : Nat) : World :=
  { w with groups := w.groups.push ⟨id, [id]⟩ }.onCreature id
    fun c => { c with group := some w.groups.size }

theorem groupOf_of_alone {w : World} {x : Nat} (alone : w.groupAt x = some none) :
    w.groupOf x = (w.founded x, some w.groups.size) := by
  obtain ⟨c, here, free⟩ := Option.map_eq_some_iff.1 alone
  simp only [groupOf, here, free]
  rfl

theorem groupOf_of_inside {w : World} {x g : Nat} (inside : w.groupAt x = some (some g)) :
    w.groupOf x = (w, some g) := by
  obtain ⟨c, here, group⟩ := Option.map_eq_some_iff.1 inside
  simp only [groupOf, here, group]

/-- A creature that is elsewhere joins one that is in a group. -/
theorem join_of_inside {w : World} {x id g : Nat} {old : Option Nat}
    (inside : w.groupAt x = some (some g)) (elsewhere : w.groupAt id = some old)
    (apart : old ≠ some g) : w.join id x = ((w.leave id old).enlist id g, some g) := by
  obtain ⟨c, here, rfl⟩ := Option.map_eq_some_iff.1 elsewhere
  simp only [join, groupOf_of_inside inside, here, apart, if_false]
  rfl

theorem groupAt_founded {w : World} {x : Nat} (alone : w.groupAt x = some none) (j : Nat) :
    (w.founded x).groupAt j = if j = x then some (some w.groups.size) else w.groupAt j :=
  groupAt_setGroup (w := { w with groups := w.groups.push ⟨x, [x]⟩ }) alone w.groups.size j

/-- To join a creature that is alone is to join it in the group that is made for it. -/
theorem join_of_alone {w : World} {x : Nat} (alone : w.groupAt x = some none) (id : Nat) :
    w.join id x = (w.founded x).join id x := by
  have inside : (w.founded x).groupAt x = some (some w.groups.size) := by
    rw [groupAt_founded alone, if_pos rfl]
  unfold join
  rw [groupOf_of_alone alone, groupOf_of_inside inside]

theorem groupAt_enlist {w : World} {id : Nat} {old : Option Nat} (here : w.groupAt id = some old)
    (g j : Nat) : (w.enlist id g).groupAt j = if j = id then some (some g) else w.groupAt j :=
  groupAt_setGroup (w := w.onGroup g fun grp => { grp with members := grp.members ++ [id] }) here g j

end World

end DungeonScript
