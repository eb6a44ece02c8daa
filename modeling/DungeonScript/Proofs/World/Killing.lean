import DungeonScript.Proofs.World.Changes

/-!
Who an order to kill takes. The creatures of a kind that a player owns and that are alive stand in
line: by level, downwards or upwards as the order says, and by number among equals. The order takes
as many from the head of the line as it asks for or as there are (`killCreatures_takes_first`), and
the world is afterwards `bereaved` of these and otherwise what it was.
-/

namespace DungeonScript

/-! ## Sorting keeps the order of equals -/

section Stable

variable {α : Type} {le : α → α → Bool}

/-- Entries that a sort has no reason to exchange come out in the order in which they went in. -/
theorem filter_mergeSort (trans : ∀ a b c, le a b → le b c → le a c)
    (total : ∀ a b, le a b || le b a) {tied : α → Bool}
    (ties : ∀ a b, tied a → tied b → le a b) (xs : List α) :
    (xs.mergeSort le).filter tied = xs.filter tied := by
  have inOrder : (xs.filter tied).Pairwise (le · ·) := by
    refine List.pairwise_of_forall_mem_list fun a here b there => ?_
    exact ties a b (List.mem_filter.1 here).2 (List.mem_filter.1 there).2
  have kept : (xs.filter tied).Sublist (xs.mergeSort le) :=
    List.sublist_mergeSort trans total inOrder List.filter_sublist
  have within : (xs.filter tied).Sublist ((xs.mergeSort le).filter tied) := by
    have again := kept.filter tied
    rwa [List.filter_filter, List.filter_congr fun a _ => Bool.and_self (tied a)] at again
  have asMany : (xs.filter tied).length = ((xs.mergeSort le).filter tied).length :=
    ((List.mergeSort_perm xs le).filter tied).length_eq.symm
  exact (within.eq_of_length asMany).symm

end Stable

/-- Numbers that went in by size come out by `le`, and by size where `le` does not tell. -/
theorem pairwise_mergeSort_of_increasing {le : Nat → Nat → Bool}
    (trans : ∀ a b c, le a b → le b c → le a c) (total : ∀ a b, le a b || le b a)
    {ids : List Nat} (increasing : ids.Pairwise (· < ·)) :
    (ids.mergeSort le).Pairwise fun a b => le a b ∧ (le b a → a < b) := by
  rw [List.pairwise_iff_forall_sublist]
  intro a b sub
  have ordered : le a b :=
    List.pairwise_iff_forall_sublist.1 (List.pairwise_mergeSort trans total ids) sub
  refine ⟨ordered, fun back => ?_⟩
  -- the numbers that are tied with `a` are an increasing list again, and `b` is behind `a` in it
  let tied (c : Nat) : Bool := le a c && le c a
  have self : le a a := by simpa using total a a
  have ties : ∀ c d, tied c → tied d → le c d := by
    intro c d here there
    simp only [tied, Bool.and_eq_true] at here there
    exact trans c a d here.2 there.1
  have pair : [a, b].Sublist (ids.filter tied) := by
    have both := sub.filter tied
    rw [filter_mergeSort trans total ties] at both
    simpa [tied, self, ordered, back] using both
  exact List.pairwise_iff_forall_sublist.1 increasing (pair.trans List.filter_sublist)

/-! ## Counts -/

/-- The dungeon with `n` creatures counted no more. -/
def Dungeon.fewer (n : Nat) (d : Dungeon) : Dungeon := { d with creatures := d.creatures - n }

theorem Dungeon.fewer_fewer (m n : Nat) (d : Dungeon) :
    (d.fewer m).fewer n = d.fewer (m + n) := by
  simp only [fewer, Int.natCast_add, Int.sub_sub]

namespace World

/-! ## The line -/

/-- The creature is alive, of this kind and owned by this player. -/
def IsTarget (w : World) (p : Player) (kind id : Nat) : Prop :=
  ∃ c, w.creature? id = some c ∧ c.alive = true ∧ c.owner = p ∧ c.kind = kind

/-- Whether an order takes creature `a` before creature `b`: the one of the level it is after, and
    among equals, or where levels do not matter, the one that appeared first. -/
def TakesBefore (w : World) (order : KillOrder) (a b : Nat) : Prop :=
  match order with
  | .anywhere => a < b
  | .mostExperienced | .mostExpWandering | .mostExpWorking | .mostExpFighting =>
    w.levelOf b < w.levelOf a ∨ w.levelOf b = w.levelOf a ∧ a < b
  | .leastExperienced | .leastExpWandering | .leastExpWorking | .leastExpFighting =>
    w.levelOf a < w.levelOf b ∨ w.levelOf a = w.levelOf b ∧ a < b

theorem mem_candidates {w : World} {p : Player} {kind id : Nat} :
    id ∈ w.candidates p kind ↔ w.IsTarget p kind id := by
  unfold candidates IsTarget
  rw [List.mem_filter, List.mem_range]
  constructor
  · rintro ⟨-, picked⟩
    split at picked
    · rename_i c here
      simp only [Bool.and_eq_true, beq_iff_eq] at picked
      exact ⟨c, here, picked.1.1, picked.1.2, picked.2⟩
    · cases picked
  · rintro ⟨c, here, alive, owner, kind⟩
    obtain ⟨bound, -⟩ := Array.getElem?_eq_some_iff.1 here
    refine ⟨bound, ?_⟩
    simp only [here, alive, owner, kind, beq_self_eq_true, Bool.and_self]

theorem candidates_increasing (w : World) (p : Player) (kind : Nat) :
    (w.candidates p kind).Pairwise (· < ·) :=
  List.Pairwise.filter _ List.pairwise_lt_range

/-- To count the numbers of the entries that pass a test is to count these entries. -/
theorem countP_range_any {α : Type} (xs : List α) (test : α → Bool) :
    (List.range xs.length).countP (fun i => xs[i]?.any test) = xs.countP test := by
  induction xs with
  | nil => rfl
  | cons x rest ih =>
    rw [List.length_cons, List.range_succ_eq_map, List.countP_cons, List.countP_map,
      List.countP_cons, ← ih]
    rfl

theorem length_candidates (w : World) (p : Player) (kind : Nat) :
    (w.candidates p kind).length = w.countKind p kind := by
  let target (c : Creature) : Bool := c.alive && c.owner == p && c.kind == kind
  have picks : w.candidates p kind =
      (List.range w.creatures.toList.length).filter fun i => w.creatures.toList[i]?.any target := by
    unfold candidates
    rw [Array.length_toList]
    refine List.filter_congr fun i _ => ?_
    rw [creature?, Array.getElem?_toList]
    cases w.creatures[i]? <;> rfl
  rw [picks, ← List.countP_eq_length_filter, countP_range_any, Array.countP_toList]
  rfl

/-- The line is in the order in which creatures are taken. -/
theorem killList_ordered (w : World) (order : KillOrder) {ids : List Nat}
    (increasing : ids.Pairwise (· < ·)) :
    (w.killList order ids).Pairwise (w.TakesBefore order) := by
  have down : (ids.mergeSort fun a b => decide (w.levelOf b ≤ w.levelOf a)).Pairwise fun a b =>
      w.levelOf b < w.levelOf a ∨ w.levelOf b = w.levelOf a ∧ a < b := by
    refine (pairwise_mergeSort_of_increasing (fun a b c => ?_) (fun a b => ?_) increasing).imp ?_
    all_goals simp only [Bool.or_eq_true, decide_eq_true_eq]; omega
  have up : (ids.mergeSort fun a b => decide (w.levelOf a ≤ w.levelOf b)).Pairwise fun a b =>
      w.levelOf a < w.levelOf b ∨ w.levelOf a = w.levelOf b ∧ a < b := by
    refine (pairwise_mergeSort_of_increasing (fun a b c => ?_) (fun a b => ?_) increasing).imp ?_
    all_goals simp only [Bool.or_eq_true, decide_eq_true_eq]; omega
  cases order with
  | anywhere => exact increasing
  | mostExperienced | mostExpWandering | mostExpWorking | mostExpFighting => exact down
  | leastExperienced | leastExpWandering | leastExpWorking | leastExpFighting => exact up

/-! ## The dead -/

/-- Creatures with those of some numbers dead. -/
def withDead (creatures : Array Creature) (dead : List Nat) : Array Creature :=
  creatures.mapIdx fun id c => if id ∈ dead then { c with alive := false } else c

theorem withDead_nil (creatures : Array Creature) : withDead creatures [] = creatures := by
  apply Array.ext_getElem?
  intro i
  rw [withDead, Array.getElem?_mapIdx]
  simp

theorem withDead_cons (creatures : Array Creature) (id : Nat) (dead : List Nat) :
    withDead (creatures.modify id fun c => { c with alive := false }) dead =
      withDead creatures (id :: dead) := by
  apply Array.ext_getElem?
  intro i
  rw [withDead, withDead, Array.getElem?_mapIdx, Array.getElem?_mapIdx, Array.getElem?_modify]
  by_cases same : id = i
  · cases creatures[i]? <;> simp [same]
  · have other : i ∈ id :: dead ↔ i ∈ dead := by
      simp only [List.mem_cons, Ne.symm same, false_or]
    rw [if_neg same]
    simp only [other]

/-- The world with creatures of a player dead and counted no more. -/
def bereaved (w : World) (p : Player) (dead : List Nat) : World :=
  { w with creatures := withDead w.creatures dead }.onDungeon p
    (Dungeon.fewer dead.length)

theorem bereaved_nil (w : World) (p : Player) : w.bereaved p [] = w := by
  have realms : updateAt w.realms p (Realm.onDungeon (Dungeon.fewer 0)) = w.realms :=
    updateAt_eq_self (by simp [Realm.onDungeon, Dungeon.fewer])
  rw [bereaved, withDead_nil, onDungeon, onRealm, List.length_nil, realms]

theorem bereaved_cons (w : World) (p : Player) (id : Nat) (dead : List Nat) :
    w.bereaved p (id :: dead) = (killOne p w id).bereaved p dead := by
  have realms : updateAt w.realms p (Realm.onDungeon (Dungeon.fewer (dead.length + 1))) =
      updateAt (updateAt w.realms p (Realm.onDungeon (Dungeon.fewer 1))) p
        (Realm.onDungeon (Dungeon.fewer dead.length)) := by
    rw [updateAt_updateAt]
    congr 1
    funext r
    have sum := Dungeon.fewer_fewer 1 dead.length r.dungeon
    rw [Nat.add_comm] at sum
    simp only [Function.comp, Realm.onDungeon, sum]
  rw [bereaved, onDungeon, onRealm, List.length_cons, realms, ← withDead_cons]
  rfl

theorem foldl_killOne (p : Player) (dead : List Nat) (w : World) :
    dead.foldl (killOne p) w = w.bereaved p dead := by
  induction dead generalizing w with
  | nil => exact (w.bereaved_nil p).symm
  | cons id rest ih => rw [List.foldl_cons, ih, ← bereaved_cons]

/-- **Whom an order to kill takes.** Of the living creatures of a kind that a player owns, as many
    die as the order asks for, or all of them: those that it takes before all that stay alive, by
    level and age. The answer is their number, the player's dungeon counts that many fewer, and
    nothing else changes. -/
theorem killCreatures_takes_first (w : World) (p : Player) (kind : Nat) (order : KillOrder)
    (count : Int) :
    ∃ dead : List Nat, dead.Pairwise (w.TakesBefore order) ∧
      (∀ id ∈ dead, w.IsTarget p kind id) ∧
      (dead.length : Int) = min (max count 0) (w.countKind p kind) ∧
      (∀ id ∈ dead, ∀ other, w.IsTarget p kind other → other ∉ dead →
        w.TakesBefore order id other) ∧
      w.killCreatures p kind order count = (w.bereaved p dead, dead.length) := by
  let line := w.killList order (w.candidates p kind)
  have ordered : line.Pairwise (w.TakesBefore order) :=
    w.killList_ordered order (w.candidates_increasing p kind)
  have same : line.Perm (w.candidates p kind) := w.killList_perm order _
  have target (id : Nat) : id ∈ line ↔ w.IsTarget p kind id := same.mem_iff.trans mem_candidates
  refine ⟨line.take count.toNat, ordered.sublist (List.take_sublist ..), fun id here => ?_, ?_,
    fun id here other there spared => ?_, ?_⟩
  · exact (target id).1 (List.mem_of_mem_take here)
  · rw [List.length_take, same.length_eq, length_candidates]
    omega
  · -- who is in the line and not taken stands behind all that are
    rw [← line.take_append_drop count.toNat, List.pairwise_append] at ordered
    have behind : other ∈ line.take count.toNat ++ line.drop count.toNat := by
      rw [List.take_append_drop]
      exact (target other).2 there
    exact ordered.2.2 id here other ((List.mem_append.1 behind).resolve_left spared)
  · show ((w.victims p kind order count).foldl (killOne p) w, _) = _
    rw [foldl_killOne]
    rfl

end World

end DungeonScript
