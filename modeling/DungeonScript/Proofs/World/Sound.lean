import DungeonScript.Proofs.World.Changes
import DungeonScript.Settings

/-!
Sound worlds. A world is `Sound` if its books agree with what is in it: every player's dungeon
counts the creatures of the player that live, no timer was set after this turn, a computer player
has the plans it started with, the group a creature is put down as being in is there, and there
are no more creatures than numbers for them. Settings make a sound world (`Settings.world_sound`),
and every elementary change keeps it sound (`World.Changes.sound`), so that worlds are sound all
through a game.
-/

namespace DungeonScript

namespace World

/-- How many of the creatures live and belong to a player. -/
def living (creatures : Array Creature) (p : Player) : Nat :=
  creatures.countP fun c => c.alive && c.owner == p

/-- The world's books agree with what is in it. -/
structure Sound (w : World) : Prop where
  /-- All living creatures are counted, and a count of all leaves none out. -/
  counted : ∀ p, (w.dungeon p).tallies = ((living w.creatures p : Int), 0)
  timed : ∀ p, (w.dungeon p).TimedBy w.turn
  planned : ∀ p, (w.realm p).Planned
  grouped : ∀ c ∈ w.creatures, ∀ g, c.group = some g → g < w.groups.size
  numbered : w.creatures.size ≤ creatureNumbers

variable {w w' : World}

/-! ## Creatures that change -/

theorem mem_modify {creatures : Array Creature} {id : Nat} {f : Creature → Creature} {c : Creature}
    (there : c ∈ creatures.modify id f) : ∃ old ∈ creatures, c = old ∨ c = f old := by
  obtain ⟨j, h, rfl⟩ := Array.mem_iff_getElem.1 there
  have old : j < creatures.size := by simpa using h
  refine ⟨creatures[j], Array.getElem_mem old, ?_⟩
  rw [Array.getElem_modify]
  split
  · exact .inr rfl
  · exact .inl rfl

theorem living_modify {creatures : Array Creature} {id : Nat} (h : id < creatures.size)
    (f : Creature → Creature) (p : Player) :
    living (creatures.modify id f) p + living #[creatures[id]] p =
      living creatures p + living #[f creatures[id]] p := by
  have set : creatures.modify id f = creatures.set id (f creatures[id]) := by
    refine Array.ext (by simp) fun j _ _ => ?_
    rw [Array.getElem_modify, Array.getElem_set]
    split
    · rename_i same
      subst same
      rfl
    · rfl
  have one (c : Creature) : living #[c] p = if (c.alive && c.owner == p) = true then 1 else 0 := by
    show Array.countP _ #[c] = _
    rw [← Array.push_empty, Array.countP_push, Array.countP_empty, Nat.zero_add]
  have part : living #[creatures[id]] p ≤ living creatures p := by
    rw [one]
    split
    · rename_i lives
      exact Array.countP_pos_iff.2 ⟨_, Array.getElem_mem h, lives⟩
    · exact Nat.zero_le _
  have count := Array.countP_set (p := fun c => c.alive && c.owner == p) (a := f creatures[id]) h
  rw [← set, ← one, ← one] at count
  show living (creatures.modify id f) p + _ = _
  unfold living at count part ⊢
  omega

/-- Creatures that keep their lives and their owners are counted as before. -/
theorem living_modify_of_same (creatures : Array Creature) (id : Nat) {f : Creature → Creature}
    (same : ∀ c, (f c).alive = c.alive ∧ (f c).owner = c.owner) (p : Player) :
    living (creatures.modify id f) p = living creatures p := by
  by_cases h : id < creatures.size
  · have moved := living_modify h f p
    have alike : living #[f creatures[id]] p = living #[creatures[id]] p := by
      simp [living, (same creatures[id]).1, (same creatures[id]).2]
    omega
  · have none : creatures.modify id f = creatures := by
      refine Array.ext (by simp) fun j _ there => ?_
      rw [Array.getElem_modify, if_neg (by omega)]
    rw [none]

theorem living_push_newborn (creatures : Array Creature) (owner : Player) (kind : Nat)
    (place : Place) (p : Player) : living (creatures.push (newborn owner kind place)) p =
      living creatures p + if owner = p then 1 else 0 := by
  unfold living
  rw [Array.countP_push]
  simp [newborn]

/-- A living creature that dies is one of its player's less. -/
theorem living_modify_dead {creatures : Array Creature} {id : Nat} {c : Creature}
    (here : creatures[id]? = some c) (alive : c.alive = true) (p : Player) :
    living (creatures.modify id fun c => { c with alive := false }) p +
      (if c.owner = p then 1 else 0) = living creatures p := by
  obtain ⟨h, there⟩ := Array.getElem?_eq_some_iff.1 here
  have moved := living_modify h (fun c => { c with alive := false }) p
  rw [there] at moved
  simpa [living, alive] using moved

/-! ## Elementary changes keep a world sound -/

namespace Sound

/-- One player's realm changes, and the list of creatures with it. -/
theorem onRealm (sound : w.Sound) {p : Player} {f : Realm → Realm} {creatures : Array Creature}
    (own : (f (w.realm p)).dungeon.tallies = ((living creatures p : Int), 0))
    (others : ∀ q, p ≠ q → living creatures q = living w.creatures q)
    (timed : (f (w.realm p)).dungeon.TimedBy w.turn) (planned : (f (w.realm p)).Planned)
    (grouped : ∀ c ∈ creatures, ∀ g, c.group = some g → g < w.groups.size)
    (numbered : creatures.size ≤ creatureNumbers) :
    ({ w with creatures }.onRealm p f).Sound := by
  have realm (q : Player) : ({ w with creatures }.onRealm p f).realm q =
      if p = q then f (w.realm q) else w.realm q := realm_onRealm _ p q f
  refine ⟨fun q => ?_, fun q => ?_, fun q => ?_, grouped, numbered⟩
  · show (World.realm _ q).dungeon.tallies = ((living creatures q : Int), 0)
    rw [realm]
    split
    · rename_i same
      subst same
      exact own
    · rename_i ne
      rw [others q ne]
      exact sound.counted q
  · show (World.realm _ q).dungeon.TimedBy w.turn
    rw [realm]
    split
    · rename_i same
      exact same ▸ timed
    · exact sound.timed q
  · rw [realm]
    split
    · rename_i same
      exact same ▸ planned
    · exact sound.planned q

theorem realm (sound : w.Sound) (p : Player) {f : Realm → Realm} (steady : Realm.Steady w.turn f) :
    (w.onRealm p f).Sound :=
  sound.onRealm ((steady.tallies _).trans (sound.counted p)) (fun _ _ => rfl)
    (steady.timers _ (sound.timed p)) (steady.plans _ (sound.planned p)) sound.grouped
    sound.numbered

theorem born (sound : w.Sound) (owner : Player) (kind : Nat) (place : Place)
    (numbers : w.creatures.size < creatureNumbers) :
    ({ w with creatures := w.creatures.push (newborn owner kind place) }.onDungeon owner
      fun d => { d with creatures := d.creatures + 1 }).Sound := by
  have counts := living_push_newborn w.creatures owner kind place
  have counted := Prod.ext_iff.1 (sound.counted owner)
  refine sound.onRealm (Prod.ext ?_ counted.2) (fun q ne => ?_) (sound.timed owner)
    (sound.planned owner) ?_ ?_
  · rw [counts, if_pos rfl, Int.natCast_add]
    exact congrArg (· + 1) counted.1
  · rw [counts, if_neg ne, Nat.add_zero]
  · intro c there g joined
    rcases Array.mem_push.1 there with old | rfl
    · exact sound.grouped c old g joined
    · cases joined
  · rw [Array.size_push]
    exact numbers

theorem died (sound : w.Sound) {p : Player} {id : Nat} {c : Creature}
    (here : w.creature? id = some c) (alive : c.alive = true) (owner : c.owner = p) :
    (killOne p w id).Sound := by
  subst owner
  have counts := living_modify_dead here alive
  have counted := Prod.ext_iff.1 (sound.counted c.owner)
  refine sound.onRealm (Prod.ext ?_ counted.2) (fun q ne => ?_) (sound.timed c.owner)
    (sound.planned c.owner) ?_ ?_
  · have own := counts c.owner
    rw [if_pos rfl] at own
    rw [← own] at counted
    exact Int.sub_eq_iff_eq_add.2 counted.1
  · have other := counts q
    rwa [if_neg ne, Nat.add_zero] at other
  · intro c there g joined
    obtain ⟨old, before, rfl | rfl⟩ := mem_modify there
    · exact sound.grouped _ before g joined
    · exact sound.grouped old before g joined
  · rw [Array.size_modify]
    exact sound.numbered

theorem lt_of_hasGroup (sound : w.Sound) {g : Nat} (has : w.HasGroup g) : g < w.groups.size := by
  rcases has with there | ⟨c, there, joined⟩
  · exact there
  · exact sound.grouped c there g joined

theorem creature (sound : w.Sound) (id : Nat) {f : Creature → Creature}
    (same : ∀ c, (f c).alive = c.alive ∧ (f c).owner = c.owner)
    (joins : ∀ c g, (f c).group = some g → c.group = some g ∨ w.HasGroup g) :
    (w.onCreature id f).Sound where
  counted q := by
    show _ = ((living (w.creatures.modify id f) q : Int), 0)
    rw [living_modify_of_same w.creatures id same]
    exact sound.counted q
  timed := sound.timed
  planned := sound.planned
  grouped c there g joined := by
    obtain ⟨old, before, rfl | rfl⟩ := mem_modify there
    · exact sound.grouped _ before g joined
    · rcases joins old g joined with already | has
      · exact sound.grouped old before g already
      · exact sound.lt_of_hasGroup has
  numbered := by
    show (w.creatures.modify id f).size ≤ creatureNumbers
    rw [Array.size_modify]
    exact sound.numbered

end Sound

theorem sound_of_core (sound : w.Sound) (same : w'.core = w.core) : w'.Sound := by
  have turn : w'.turn = w.turn := congrArg Core.turn same
  have realms : w'.realms = w.realms := congrArg Core.realms same
  have creatures : w'.creatures = w.creatures := congrArg Core.creatures same
  have groups : w'.groups = w.groups := congrArg Core.groups same
  have realm : w'.realm = w.realm := by
    unfold World.realm
    rw [realms]
  have dungeon : w'.dungeon = w.dungeon := by
    unfold World.dungeon
    rw [realm]
  constructor
  · rw [dungeon, creatures]
    exact sound.counted
  · rw [dungeon, turn]
    exact sound.timed
  · rw [realm]
    exact sound.planned
  · rw [creatures, groups]
    exact sound.grouped
  · rw [creatures]
    exact sound.numbered

theorem Change.sound (change : Change w w') (sound : w.Sound) : w'.Sound := by
  cases change with
  | realm p steady => exact sound.realm p steady
  | born owner kind place numbers => exact sound.born owner kind place numbers
  | died here alive owner => exact sound.died here alive owner
  | creature id same joins => exact sound.creature id same joins
  | groups more =>
    exact ⟨sound.counted, sound.timed, sound.planned,
      fun c there g joined => Nat.lt_of_lt_of_le (sound.grouped c there g joined) more,
      sound.numbered⟩
  | point new here =>
    exact ⟨sound.counted, sound.timed, sound.planned, sound.grouped, sound.numbered⟩
  | other same => exact sound_of_core sound same

/-- Changes keep a world sound. -/
theorem Changes.sound (changes : Changes w w') (sound : w.Sound) : w'.Sound := by
  induction changes with
  | refl => exact sound
  | next _ change ih => exact change.sound ih

theorem Sound.nextTurn (sound : w.Sound) : { w with turn := w.turn + 1 }.Sound :=
  ⟨sound.counted, fun p i h => Nat.le_succ_of_le (sound.timed p i h), sound.planned, sound.grouped,
    sound.numbered⟩

theorem Sound.advance (sound : w.Sound) : w.advance.value.Sound :=
  w.advance_changes.sound sound.nextTurn

theorem fresh_sound : fresh.Sound where
  counted p := by
    show Dungeon.tallies ((Vector.replicate playerCount Realm.fresh)[p.val]).dungeon = _
    rw [Vector.getElem_replicate]
    rfl
  timed p i h := by
    show TurnTimer.started (((Vector.replicate playerCount Realm.fresh)[p.val]).dungeon.timers[i]) ≤ 0
    rw [Vector.getElem_replicate]
    show TurnTimer.started ((Vector.replicate timerCount TurnTimer.idle)[i]) ≤ 0
    rw [Vector.getElem_replicate]
    exact Nat.le_refl 0
  planned p c here := by
    have none : ((Vector.replicate playerCount Realm.fresh)[p.val]).computer = some c := here
    rw [Vector.getElem_replicate] at none
    cases none
  grouped c there := absurd there (Array.not_mem_empty c)
  numbered := Nat.zero_le _

end World

/-! ## Settings -/

namespace Settings

/-- What the timetable does not touch is not changed by scheduling entries. -/
theorem scheduleAll_keeps {α : Type} {k : World → α}
    (timetable : ∀ (w : World) schedule, k { w with schedule } = k w)
    (activations : List Activation) (w : World) : k (scheduleAll activations w).value = k w := by
  induction activations generalizing w with
  | nil => rfl
  | cons a rest ih =>
    unfold scheduleAll
    split
    · exact (ih _).trans (timetable w _)
    · exact ih w

/-- What neither the map nor the timetable touches is in the world that settings describe what it is
    before anything is put on its map. -/
theorem world_keeps {α : Type} {k : World → α}
    (laid : ∀ (w : World) points gates schedule, k { w with points, gates, schedule } = k w)
    (s : Settings) : k s.world.value = k s.bareWorld := by
  refine (scheduleAll_keeps (fun w => laid w w.points w.gates) s.activations _).trans ?_
  refine List.foldlRecOn (motive := fun w => k w = k s.bareWorld) s.gates _
    (List.foldlRecOn (motive := fun w => k w = k s.bareWorld) s.points _ rfl ?_) ?_
  · exact fun w same p _ => (laid w _ w.gates w.schedule).trans same
  · exact fun w same p _ => (laid w w.points _ w.schedule).trans same

theorem scheduleAll_sound (activations : List Activation) {w : World} (sound : w.Sound) :
    (scheduleAll activations w).value.Sound := by
  induction activations generalizing w with
  | nil => exact sound
  | cons a rest ih =>
    unfold scheduleAll
    split
    · exact ih ⟨sound.counted, sound.timed, sound.planned, sound.grouped, sound.numbered⟩
    · exact ih sound

/-- The world that settings describe is sound. -/
theorem world_sound (s : Settings) : s.world.value.Sound := by
  have bare : s.bareWorld.Sound :=
    ⟨World.fresh_sound.counted, World.fresh_sound.timed, World.fresh_sound.planned,
      World.fresh_sound.grouped, World.fresh_sound.numbered⟩
  refine scheduleAll_sound s.activations (List.foldlRecOn _ _ (List.foldlRecOn _ _ bare ?_) ?_)
  · exact fun _ sound _ _ =>
      ⟨sound.counted, sound.timed, sound.planned, sound.grouped, sound.numbered⟩
  · exact fun _ sound _ _ =>
      ⟨sound.counted, sound.timed, sound.planned, sound.grouped, sound.numbered⟩

end Settings

end DungeonScript
