import DungeonScript.Proofs.World.Gathering

/-!
Worlds with more creatures and groups. Whoever appears stands behind those that were there, and so
does a group that is new: the world is then `peopled` with two lists, of creatures and of groups.
What happens to the new ones later on is told by their places in the lists, and above all what
becomes of the lists when one of the new creatures joins another (`join_peopled_of_inside`,
`join_peopled_of_alone`).
-/

namespace DungeonScript

namespace World

/-! ## More creatures and groups -/

theorem getElem?_append_add {α : Type} (xs : Array α) (ys : List α) (i : Nat) :
    (xs ++ ys.toArray)[xs.size + i]? = ys[i]? := by
  rw [Array.getElem?_append_right (Nat.le_add_right _ _), Nat.add_sub_cancel_left]
  exact List.getElem?_toArray

theorem modify_append {α : Type} (xs : Array α) (ys : List α) (i : Nat) (f : α → α) :
    (xs ++ ys.toArray).modify (xs.size + i) f = xs ++ (ys.modify i f).toArray := by
  apply Array.ext_getElem?
  intro j
  rw [Array.getElem?_modify]
  rcases Nat.lt_or_ge j xs.size with old | new
  · have other : xs.size + i ≠ j := by omega
    rw [if_neg other, Array.getElem?_append_left old, Array.getElem?_append_left old]
  · obtain ⟨n, rfl⟩ := Nat.exists_eq_add_of_le new
    rw [getElem?_append_add, getElem?_append_add, List.getElem?_modify]
    simp only [Nat.add_left_cancel_iff]
    split
    · rfl
    · simp

theorem modify_concat {α : Type} (xs : List α) (x : α) (f : α → α) :
    (xs ++ [x]).modify xs.length f = xs ++ [f x] := by
  induction xs with
  | nil => rfl
  | cons y ys ih => exact congrArg (y :: ·) ih

/-- The world with new creatures of a player and new groups, behind those that were there. -/
def peopled (w : World) (born : List Creature) (formed : List Group) (owner : Player) : World :=
  { w with
    creatures := w.creatures ++ born.toArray
    groups := w.groups ++ formed.toArray }.onDungeon owner
      fun d => { d with creatures := d.creatures + born.length }

section Peopled

variable (w : World) (born : List Creature) (formed : List Group) (owner : Player)

theorem peopled_peopled (born' : List Creature) (formed' : List Group) :
    (w.peopled born formed owner).peopled born' formed' owner =
      w.peopled (born ++ born') (formed ++ formed') owner := by
  simp only [peopled, onDungeon, onRealm, Realm.onDungeon, updateAt]
  simp [Int.add_assoc]

theorem peopled_nil : w.peopled [] [] owner = w := by
  have same : updateAt w.realms owner (Realm.onDungeon fun d => { d with creatures := d.creatures + 0 }) =
      w.realms := updateAt_eq_self (by simp [Realm.onDungeon])
  simp only [peopled, onDungeon, onRealm, List.length_nil, Int.natCast_zero, same]
  simp

theorem peopled_unpeopled : (w.peopled born formed owner).unpeopled = w.unpeopled :=
  onDungeon_unpeopled _ owner fun _ => rfl

theorem admits_peopled (place : Place) : (w.peopled born formed owner).admits place = w.admits place :=
  admits_of_unpeopled (w.peopled_unpeopled born formed owner) place

theorem size_creatures_peopled :
    (w.peopled born formed owner).creatures.size = w.creatures.size + born.length := by
  simp [peopled, onDungeon, onRealm]

theorem room_peopled : (w.peopled born formed owner).room = w.room - born.length := by
  rw [room, size_creatures_peopled, Nat.sub_add_eq]
  rfl

theorem size_groups_peopled :
    (w.peopled born formed owner).groups.size = w.groups.size + formed.length := by
  simp [peopled, onDungeon, onRealm]

theorem creature?_peopled (i : Nat) :
    (w.peopled born formed owner).creature? (w.creatures.size + i) = born[i]? :=
  getElem?_append_add w.creatures born i

theorem groupAt_peopled (i : Nat) :
    (w.peopled born formed owner).groupAt (w.creatures.size + i) = born[i]?.map (·.group) := by
  rw [groupAt, creature?_peopled]

theorem group?_peopled (j : Nat) :
    (w.peopled born formed owner).groups[w.groups.size + j]? = formed[j]? :=
  getElem?_append_add w.groups formed j

theorem onCreature_peopled (i : Nat) (f : Creature → Creature) :
    (w.peopled born formed owner).onCreature (w.creatures.size + i) f =
      w.peopled (born.modify i f) formed owner := by
  unfold peopled
  rw [List.length_modify, ← modify_append]
  rfl

theorem onGroup_peopled (j : Nat) (f : Group → Group) :
    (w.peopled born formed owner).onGroup (w.groups.size + j) f =
      w.peopled born (formed.modify j f) owner := by
  unfold peopled
  rw [← modify_append]
  rfl

theorem founded_peopled (i : Nat) :
    (w.peopled born formed owner).founded (w.creatures.size + i) =
      w.peopled (born.modify i fun c => { c with group := some (w.groups.size + formed.length) })
        (formed ++ [⟨w.creatures.size + i, [w.creatures.size + i]⟩]) owner := by
  rw [founded, size_groups_peopled, ← onCreature_peopled]
  congr 1
  simp [peopled, onDungeon, onRealm]

theorem enlist_peopled (i j : Nat) :
    (w.peopled born formed owner).enlist (w.creatures.size + i) (w.groups.size + j) =
      w.peopled (born.modify i fun c => { c with group := some (w.groups.size + j) })
        (formed.modify j fun grp => { grp with members := grp.members ++ [w.creatures.size + i] })
        owner := by
  rw [enlist, onGroup_peopled, onCreature_peopled]

variable {born formed owner}

/-- One of the new creatures, which is alone, joins another that is in a new group. -/
theorem join_peopled_of_inside {i n j : Nat}
    (inside : born[i]?.map (·.group) = some (some (w.groups.size + j)))
    (free : born[n]?.map (·.group) = some none) :
    (w.peopled born formed owner).join (w.creatures.size + n) (w.creatures.size + i) =
      (w.peopled (born.modify n fun c => { c with group := some (w.groups.size + j) })
        (formed.modify j fun grp => { grp with members := grp.members ++ [w.creatures.size + n] })
        owner, some (w.groups.size + j)) := by
  rw [← groupAt_peopled w born formed owner] at inside free
  rw [join_of_inside inside free nofun]
  exact Prod.ext (w.enlist_peopled born formed owner n j) rfl

/-- One of the new creatures joins another where no group is new: both are alone, and the other
    one leads. -/
theorem join_peopled_of_alone {i n : Nat} (apart : i ≠ n)
    (alone : born[i]?.map (·.group) = some none) (free : born[n]?.map (·.group) = some none) :
    (w.peopled born [] owner).join (w.creatures.size + n) (w.creatures.size + i) =
      (w.peopled ((born.modify i fun c => { c with group := some w.groups.size }).modify n
          fun c => { c with group := some w.groups.size })
        [⟨w.creatures.size + i, [w.creatures.size + i, w.creatures.size + n]⟩] owner,
        some w.groups.size) := by
  have inside : ((born.modify i fun c => { c with group := some w.groups.size })[i]?).map (·.group) =
      some (some (w.groups.size + 0)) := by
    obtain ⟨c, here, _⟩ := Option.map_eq_some_iff.1 alone
    simp [here]
  have free : ((born.modify i fun c => { c with group := some w.groups.size })[n]?).map (·.group) =
      some none := by
    simp [apart, free]
  rw [← groupAt_peopled w born [] owner] at alone
  rw [join_of_alone alone, founded_peopled, List.length_nil, Nat.add_zero, List.nil_append,
    w.join_peopled_of_inside inside free]
  rfl

end Peopled

theorem groups_peopled_nil (w : World) (born : List Creature) (owner : Player) :
    (w.peopled born [] owner).groups = w.groups := Array.append_empty

theorem groups_peopled_singleton (w : World) (born : List Creature) (grp : Group)
    (owner : Player) : (w.peopled born [grp] owner).groups = w.groups.push grp :=
  Array.push_eq_append.symm

/-- Places where creatures can appear are of a sort that lets them. -/
theorem admits_eq (w : World) (place : Place) : w.admits place = w.spawnAllowed place := by
  cases place <;> rfl

/-- A creature that appears is the last, and alone. -/
theorem spawnCreature_peopled {w : World} {place : Place} (receives : w.Receives place)
    (owner : Player) (kind : Nat) (gold : Int) (level : Nat) :
    (w.spawnCreature owner kind place gold level).value =
      (w.peopled [⟨kind, owner, place, gold, level, true, none, none, none⟩] [] owner,
        some w.creatures.size) := by
  obtain ⟨admits, numbers⟩ := receives
  obtain ⟨can, allowed⟩ := Bool.and_eq_true_iff.1 admits
  have appears : w.createCreature owner kind place =
      (w.peopled [newborn owner kind place] [] owner, some w.creatures.size) := by
    unfold createCreature
    rw [if_pos ⟨allowed, Nat.lt_of_sub_pos numbers⟩]
    simp [peopled, onDungeon, onRealm]
  simp only [spawnCreature, can, if_true, appears]
  exact Prod.ext (w.onCreature_peopled [newborn owner kind place] [] owner 0 _) rfl

theorem spawnCreature_groups (w : World) (owner : Player) (kind : Nat) (place : Place) (gold : Int)
    (level : Nat) : (w.spawnCreature owner kind place gold level).value.1.groups = w.groups := by
  by_cases receives : w.Receives place
  · rw [spawnCreature_peopled receives]
    exact w.groups_peopled_nil ..
  · rw [spawnCreature_of_not_receives receives]

end World

end DungeonScript
