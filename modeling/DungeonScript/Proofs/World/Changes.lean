import DungeonScript.Proofs.Script.Firing

/-!
What the commands of a script come to, change by change. Whatever a spawn, a tunneller, an
effect or a setup order does is a row of elementary changes (`Change`): a realm changes but
for the count of its creatures, a creature appears and is counted, a living one dies and is
counted no more, a creature changes hands or joins a group there is, groups are added or
altered, an action point that exists is entered or reset, and what nothing else depends on
changes in any way.

An invariant of the world is checked once for each elementary change; that it outlives the
commands follows by `Changes`. Nothing here says what the commands are for.
-/

namespace DungeonScript

/-! ## Elementary changes -/

/-- How many creatures a dungeon counts, and how many of them a count of all leaves out. -/
def Dungeon.tallies (d : Dungeon) : Int × Int := (d.creatures, d.uncounted)

/-- No timer of the dungeon was set after turn `now`. -/
def Dungeon.TimedBy (now : Nat) (d : Dungeon) : Prop :=
  ∀ i (h : i < timerCount), d.timers[i].started ≤ now

/-- The computer player has as many plans of each sort as it started with. -/
def Realm.Planned (r : Realm) : Prop :=
  ∀ c, r.computer = some c → ∀ sort, (c.plans sort).length = sort.names.length

/-- `f` leaves the count of creatures alone, sets no timer to a turn after `now` and gives a
    computer player no plan and takes none from it. -/
structure Realm.Steady (now : Nat) (f : Realm → Realm) : Prop where
  tallies : ∀ r, (f r).dungeon.tallies = r.dungeon.tallies
  timers : ∀ r, r.dungeon.TimedBy now → (f r).dungeon.TimedBy now
  plans : ∀ r, r.Planned → (f r).Planned

theorem Realm.steady_of_same {f : Realm → Realm} (now : Nat)
    (tallies : ∀ r, (f r).dungeon.tallies = r.dungeon.tallies)
    (timers : ∀ r, (f r).dungeon.timers = r.dungeon.timers)
    (computer : ∀ r, (f r).computer = r.computer) : Steady now f := by
  refine ⟨tallies, fun r timed i h => ?_, fun r planned c here => ?_⟩
  · simp only [timers]
    exact timed i h
  · exact planned c ((computer r).symm.trans here)

namespace World

/-- The parts of a world that the changes below are about. -/
structure Core where
  turn : Nat
  realms : Vector Realm playerCount
  creatures : Array Creature
  groups : Array Group
  points : Catalogue ActionPoint
  gates : Catalogue (Int × Int)

/-- The parts of the world that the changes below are about. -/
def core (w : World) : Core := ⟨w.turn, w.realms, w.creatures, w.groups, w.points, w.gates⟩

/-- There is a group of this number, or a creature that is put down as being in it. -/
def HasGroup (w : World) (g : Nat) : Prop :=
  g < w.groups.size ∨ ∃ c ∈ w.creatures, c.group = some g

/-- An elementary change of a world. -/
inductive Change (w : World) : World → Prop where
  /-- A realm changes, but not how many creatures its player has. -/
  | realm (p : Player) {f : Realm → Realm} (steady : Realm.Steady w.turn f) :
      Change w (w.onRealm p f)
  /-- A creature appears, there being a number for it, and is counted. -/
  | born (owner : Player) (kind : Nat) (place : Place)
      (numbers : w.creatures.size < creatureNumbers) :
      Change w ({ w with creatures := w.creatures.push (newborn owner kind place) }.onDungeon owner
        fun d => { d with creatures := d.creatures + 1 })
  /-- A living creature of a player dies and is counted no more. -/
  | died {p : Player} {id : Nat} {c : Creature} (here : w.creature? id = some c)
      (alive : c.alive = true) (owner : c.owner = p) : Change w (killOne p w id)
  /-- A creature changes, but neither its life nor its owner; it may join a group. -/
  | creature (id : Nat) {f : Creature → Creature}
      (same : ∀ c, (f c).alive = c.alive ∧ (f c).owner = c.owner)
      (joins : ∀ c g, (f c).group = some g → c.group = some g ∨ w.HasGroup g) :
      Change w (w.onCreature id f)
  /-- Groups change, and none goes away. -/
  | groups {groups : Array Group} (more : w.groups.size ≤ groups.size) : Change w { w with groups }
  /-- An action point that exists changes. -/
  | point {number : Nat} {old : ActionPoint} (new : ActionPoint)
      (here : w.points.get? number = some old) :
      Change w { w with points := w.points.put number new }
  /-- Something else changes. -/
  | other {w' : World} (same : w'.core = w.core) : Change w w'

/-- Elementary changes, one after the other. -/
inductive Changes : World → World → Prop where
  | refl (w : World) : Changes w w
  | next {a b c : World} (before : Changes a b) (change : Change b c) : Changes a c

theorem Change.changes {a b : World} (change : Change a b) : Changes a b := .next (.refl a) change

theorem Changes.trans {a b c : World} (first : Changes a b) (later : Changes b c) :
    Changes a c := by
  induction later with
  | refl => exact first
  | next _ change ih => exact .next ih change

theorem changes_of_core {w w' : World} (same : w'.core = w.core) : Changes w w' :=
  (Change.other same).changes

/-! ## Realms -/

theorem onEach_changes {f : Realm → Realm} (players : List Player) (w : World)
    (steady : Realm.Steady w.turn f) : Changes w (w.onEach players f) := by
  induction players generalizing w with
  | nil => exact .refl w
  | cons p rest ih => exact (Change.realm p steady).changes.trans (ih (w.onRealm p f) steady)

/-- A change to dungeons that leaves their tallies and timers alone. -/
theorem onEachDungeon_changes {f : Dungeon → Dungeon} (players : List Player) (w : World)
    (tallies : ∀ d, (f d).tallies = d.tallies) (timers : ∀ d, (f d).timers = d.timers) :
    Changes w (w.onEachDungeon players f) :=
  onEach_changes players w
    (Realm.steady_of_same _ (fun r => tallies r.dungeon) (fun r => timers r.dungeon) fun _ => rfl)

theorem steady_setTimer (now : Nat) (slot : Fin timerCount) :
    Realm.Steady now (Realm.onDungeon fun d =>
      { d with timers := updateAt d.timers slot fun _ => ⟨true, now⟩ }) := by
  refine ⟨fun r => rfl, fun r timed i h => ?_, fun _ planned => planned⟩
  show (updateAt r.dungeon.timers slot _)[i].started ≤ now
  rw [getElem_updateAt]
  split
  · exact Nat.le_refl now
  · exact timed i h

theorem steady_forNewLevel (now : Nat) : Realm.Steady now (Realm.onDungeon Dungeon.forNewLevel) := by
  refine ⟨fun r => rfl, fun r _ i h => ?_, fun _ planned => planned⟩
  show ((Vector.replicate timerCount TurnTimer.idle)[i]).started ≤ now
  rw [Vector.getElem_replicate]
  exact Nat.zero_le now

theorem forNewLevel_changes (w : World) : Changes w w.forNewLevel :=
  (onEach_changes _ w (steady_forNewLevel w.turn)).trans (changes_of_core rfl)

/-! ## Creatures and groups -/

theorem onCreature_changes (w : World) (id : Nat) {f : Creature → Creature}
    (same : ∀ c, ((f c).alive, (f c).owner, (f c).group) = (c.alive, c.owner, c.group)) :
    Changes w (w.onCreature id f) := by
  refine (Change.creature id (fun c => ?_) fun c g joined => .inl ?_).changes
  · exact ⟨congrArg Prod.fst (same c), congrArg (·.2.1) (same c)⟩
  · exact (congrArg (·.2.2) (same c)).symm.trans joined

theorem initCreature_changes (w : World) (id : Nat) (gold : Int) (level : Nat) :
    Changes w (w.initCreature id gold level) := w.onCreature_changes id fun _ => rfl

theorem setObjective_changes (w : World) (id : Nat) (objective : Objective) (start : Nat) :
    Changes w (w.setObjective id objective start) := w.onCreature_changes id fun _ => rfl

theorem sendTunneller_changes (w : World) (id : Nat) (heading : Heading) (target : Int) :
    Changes w (w.sendTunneller id heading target).1 := w.onCreature_changes id fun _ => rfl

theorem createCreature_changes (w : World) (owner : Player) (kind : Nat) (place : Place) :
    Changes w (w.createCreature owner kind place).1 := by
  unfold createCreature
  split
  · rename_i h
    exact (Change.born owner kind place h.2).changes
  · exact .refl w

theorem onGroup_changes (w : World) (g : Nat) (f : Group → Group) : Changes w (w.onGroup g f) :=
  (Change.groups (Nat.le_of_eq Array.size_modify.symm)).changes

theorem leave_changes (w : World) (id : Nat) (old : Option Nat) : Changes w (w.leave id old) := by
  cases old with
  | none => exact .refl w
  | some g => exact w.onGroup_changes g _

theorem setGroup_changes {w : World} {g : Nat} (id : Nat) (has : w.HasGroup g) :
    Changes w (w.onCreature id fun c => { c with group := some g }) := by
  have joins : ∀ (c : Creature) (g' : Nat), { c with group := some g }.group = some g' →
      c.group = some g' ∨ w.HasGroup g' := by
    intro c g' joined
    obtain rfl := Option.some.inj joined
    exact .inr has
  exact (Change.creature (f := fun c => { c with group := some g }) id (fun _ => ⟨rfl, rfl⟩)
    joins).changes

theorem creature?_onCreature_self {w : World} {id : Nat} {c : Creature}
    (here : w.creature? id = some c) (f : Creature → Creature) :
    (w.onCreature id f).creature? id = some (f c) := by
  unfold creature? at here ⊢
  show (w.creatures.modify id f)[id]? = _
  rw [Array.getElem?_modify, if_pos rfl, here]
  rfl

/-- The group that is found or made for a creature is put down as its group. -/
theorem groupOf_spec {w w' : World} {id g : Nat} (found : w.groupOf id = (w', some g)) :
    Changes w w' ∧ ∃ c, w'.creature? id = some c ∧ c.group = some g := by
  unfold groupOf at found
  cases here : w.creature? id with
  | none =>
    simp only [here] at found
    cases found
  | some c =>
    simp only [here] at found
    cases old : c.group with
    | some g' =>
      simp only [old] at found
      cases found
      exact ⟨.refl w, c, here, old⟩
    | none =>
      simp only [old] at found
      cases found
      let grown : World := { w with groups := w.groups.push ⟨id, [id]⟩ }
      have pushed : w.groups.size < grown.groups.size := by
        show _ < (w.groups.push _).size
        rw [Array.size_push]
        exact Nat.lt_succ_self _
      have grows : Changes w grown := (Change.groups (Nat.le_of_lt pushed)).changes
      exact ⟨grows.trans (setGroup_changes id (.inl pushed)), _,
        creature?_onCreature_self (w := grown) here _, rfl⟩

theorem groupOf_changes (w : World) (id : Nat) : Changes w (w.groupOf id).1 := by
  cases found : w.groupOf id with
  | mk w' g? =>
    cases g? with
    | some g => exact (groupOf_spec found).1
    | none =>
      unfold groupOf at found
      split at found
      · cases found
        exact .refl w
      · split at found <;> cases found

theorem join_changes (w : World) (id member : Nat) : Changes w (w.join id member).1 := by
  unfold join
  cases found : w.groupOf member with
  | mk w' g? =>
    cases g? with
    | none =>
      have same := w.groupOf_changes member
      rw [found] at same
      exact same
    | some g =>
      obtain ⟨before, other, there, grouped⟩ := groupOf_spec found
      simp only
      cases here : w'.creature? id with
      | none => exact before
      | some c =>
        simp only
        split
        · exact before
        · let left := (w'.leave id c.group).onGroup g fun grp =>
            { grp with members := grp.members ++ [id] }
          have leaves : Changes w' left := (w'.leave_changes id c.group).trans (onGroup_changes _ g _)
          -- to leave a group and to be added to its members changes groups alone
          have creatures : left.creatures = w'.creatures := by
            show (w'.leave id c.group).creatures = _
            cases c.group <;> rfl
          have has : left.HasGroup g := .inr ⟨other, creatures ▸ Array.mem_of_getElem? there, grouped⟩
          exact (before.trans leaves).trans (setGroup_changes id has)

theorem addToGroup_changes (w : World) (id member : Nat) : Changes w (w.addToGroup id member) :=
  w.join_changes id member

theorem addAsLeader_changes (w : World) (id member : Nat) :
    Changes w (w.addAsLeader id member) := by
  have joins := w.join_changes id member
  unfold addAsLeader
  split
  · rename_i joined
    rw [joined] at joins
    exact joins.trans (onGroup_changes _ _ _)
  · rename_i joined
    rw [joined] at joins
    exact joins

theorem meet_changes (w : World) (id : Nat) (previous leader : Option Nat) :
    Changes w (w.meet id previous leader).1 := by
  unfold meet
  split
  · exact .refl w
  · split
    · exact w.addToGroup_changes id _
    · exact w.addAsLeader_changes id _

/-! ## Spawns and tunnellers -/

theorem spawnCreature_changes (w : World) (owner : Player) (kind : Nat) (place : Place)
    (gold : Int) (level : Nat) :
    Changes w (w.spawnCreature owner kind place gold level).value.1 := by
  have created : Changes w
      (if place.canSpawn then w.createCreature owner kind place else (w, none)).1 := by
    split
    · exact w.createCreature_changes owner kind place
    · exact .refl w
  unfold spawnCreature
  split
  · rename_i here
    rw [here] at created
    exact created.trans (initCreature_changes ..)
  · rename_i here
    rw [here] at created
    exact created

theorem spawnCopies_changes (owner : Player) (kind : Nat) (place : Place) (gold : Int)
    (level copies : Nat) (w : World) :
    Changes w (spawnCopies owner kind place gold level copies w).value := by
  induction copies generalizing w with
  | zero => exact .refl w
  | succ copies ih =>
    rw [spawnCopies, Logged.value_bind]
    exact (w.spawnCreature_changes owner kind place gold level).trans (ih _)

theorem spawnMembers_changes (owner : Player) (place : Place) (members : List Member)
    (previous leader : Option Nat) (w : World) :
    Changes w (spawnMembers owner place members previous leader w).value.1 := by
  induction members generalizing previous leader w with
  | nil => exact .refl w
  | cons m rest ih =>
    have appears := w.spawnCreature_changes owner m.kind place m.gold m.level
    rw [spawnMembers, Logged.value_bind]
    split
    · rename_i spawned
      rw [spawned] at appears
      exact appears.trans (ih _ _ _)
    · rename_i w' id spawned
      rw [spawned] at appears
      have met := (w'.setObjective_changes id m.objective (w'.countdownEnd m.countdown)).trans
        (meet_changes _ id previous leader)
      exact (appears.trans met).trans (ih _ _ _)

theorem spawnParty_changes (party : Party) (owner : Player) (place : Place) :
    ∀ (copies : Nat) (w : World), Changes w (spawnParty party owner place copies w).value.1
  | 0, w => .refl w
  | 1, w => spawnMembers_changes owner place party.members none none w
  | copies + 2, w => by
    rw [spawnParty, Logged.value_bind]
    · exact (spawnMembers_changes ..).trans (spawnParty_changes party owner place (copies + 1) _)
    · omega

theorem spawnTunneller_changes (w : World) (t : Tunneller) :
    Changes w (w.spawnTunneller t).value.1 := by
  have appears := w.spawnCreature_changes t.owner tunnellerKind t.place t.gold t.level
  rw [spawnTunneller, Logged.value_bind]
  split
  · rename_i spawned
    rw [spawned] at appears
    exact appears
  · rename_i w' id spawned
    rw [spawned] at appears
    have sent := appears.trans (w'.sendTunneller_changes id t.heading t.target)
    simp only
    split <;> exact sent

theorem spawnTunnellerParty_changes (w : World) (party : Party) (t : Tunneller) :
    Changes w (w.spawnTunnellerParty party t).value := by
  have appears := w.spawnTunneller_changes t
  rw [spawnTunnellerParty, Logged.value_bind]
  split
  · rename_i spawned
    rw [spawned] at appears
    exact appears
  · rename_i w' id spawned
    rw [spawned] at appears
    have follows := appears.trans (spawnParty_changes party t.owner t.place 1 w')
    rw [Logged.value_bind]
    split
    · rename_i led
      rw [led] at follows
      exact follows
    · rename_i led
      rw [led] at follows
      exact follows.trans (addAsLeader_changes ..)

theorem spawn_changes (parties : List Party) (s : Spawn) (w : World) :
    Changes w (spawn parties s w).value := by
  unfold spawn
  split
  · split
    · exact spawnParty_changes ..
    · exact .refl w
  · exact spawnCopies_changes ..

theorem sendOut_changes (parties : List Party) (t : Tunneller) (w : World) :
    Changes w (sendOut parties t w).value := by
  unfold sendOut
  split
  · exact spawnTunnellerParty_changes ..
  · exact spawnTunneller_changes ..

/-! ## Killing -/

theorem killList_perm (w : World) (order : KillOrder) (ids : List Nat) :
    (w.killList order ids).Perm ids := by
  unfold killList
  split
  · exact .refl _
  all_goals exact List.mergeSort_perm ..

/-- What is to be killed is a living creature of the player, and each only once. -/
theorem victims_spec (w : World) (p : Player) (kind : Nat) (order : KillOrder) (count : Int) :
    (w.victims p kind order count).Nodup ∧ ∀ id ∈ w.victims p kind order count,
      ∃ c, w.creature? id = some c ∧ c.alive = true ∧ c.owner = p := by
  have sorted := w.killList_perm order (w.candidates p kind)
  constructor
  · have once : (w.candidates p kind).Nodup := List.Pairwise.filter _ List.nodup_range
    exact (sorted.nodup_iff.2 once).sublist (List.take_sublist ..)
  · intro id victim
    have candidate : id ∈ w.candidates p kind := sorted.mem_iff.1 (List.mem_of_mem_take victim)
    have picked := (List.mem_filter.1 candidate).2
    split at picked
    · rename_i c here
      simp only [Bool.and_eq_true, beq_iff_eq] at picked
      exact ⟨c, here, picked.1.1, picked.1.2⟩
    · cases picked

theorem creature?_killOne_of_ne {p : Player} {w : World} {id other : Nat} (ne : id ≠ other) :
    (killOne p w id).creature? other = w.creature? other := by
  show (w.creatures.modify id _)[other]? = w.creatures[other]?
  rw [Array.getElem?_modify, if_neg ne]

theorem killOnes_changes (p : Player) (ids : List Nat) (w : World) (once : ids.Nodup)
    (living : ∀ id ∈ ids, ∃ c, w.creature? id = some c ∧ c.alive = true ∧ c.owner = p) :
    Changes w (ids.foldl (killOne p) w) := by
  induction ids generalizing w with
  | nil => exact .refl w
  | cons id rest ih =>
    obtain ⟨notLater, restOnce⟩ := List.nodup_cons.1 once
    obtain ⟨c, here, alive, owner⟩ := living id List.mem_cons_self
    refine (Change.died here alive owner).changes.trans (ih _ restOnce fun other later => ?_)
    have ne : id ≠ other := by
      rintro rfl
      exact notLater later
    rw [creature?_killOne_of_ne ne]
    exact living other (List.mem_cons_of_mem id later)

theorem killCreatures_changes (w : World) (p : Player) (kind : Nat) (order : KillOrder)
    (count : Int) : Changes w (w.killCreatures p kind order count).1 := by
  obtain ⟨once, living⟩ := w.victims_spec p kind order count
  exact killOnes_changes p _ w once living

/-! ## Effects and setup orders -/

theorem forPlayers_changes {f : Player → World → Logged World}
    (each : ∀ p w, Changes w (f p w).value) (players : List Player) (w : World) :
    Changes w (forPlayers f players w).value := by
  induction players generalizing w with
  | nil => exact .refl w
  | cons p rest ih => exact (each p w).trans (ih _)

/-- A realm changes and keeps tallies and timers. -/
theorem onRealm_changes (p : Player) {f : Realm → Realm} (w : World)
    (tallies : ∀ r, (f r).dungeon.tallies = r.dungeon.tallies)
    (timers : ∀ r, (f r).dungeon.timers = r.dungeon.timers)
    (computer : ∀ r, (f r).computer = r.computer) : Changes w (w.onRealm p f) :=
  (Change.realm p (Realm.steady_of_same _ tallies timers computer)).changes

theorem give_changes (stock : Stock) (item : Nat) (first second : Int) (p : Player) (w : World) :
    Changes w (give stock item first second p w).value := by
  rcases give_gift stock item first second p w with same | ⟨f, gives, same⟩
  · rw [same]
    exact .refl w
  · rw [same]
    exact onRealm_changes p w gives.tallies gives.timers gives.computer

theorem allyTo_changes (a b : Nat) (w : World) : Changes w (w.allyTo a b) := by
  unfold allyTo
  split
  · exact onRealm_changes _ w (fun _ => rfl) (fun _ => rfl) fun _ => rfl
  · exact .refl w

theorem resetPoint_changes (w : World) (number : Nat) : Changes w (w.resetPoint number) := by
  unfold resetPoint
  split
  · rename_i here
    exact (Change.point _ here).changes
  · exact .refl w

theorem activate_changes (w : World) (number player : Nat) :
    Changes w (w.activate number player).value := by
  unfold activate
  split
  · rename_i here
    exact (Change.point _ here).changes
  · exact .refl w

theorem display_changes (w : World) (s : Selector) (m : Message) : Changes w (w.display s m) := by
  unfold display
  split
  · exact changes_of_core rfl
  · exact .refl w

end World

open World in
theorem Effect.apply_changes (s : Script) (e : Effect) (w : World) :
    Changes w (e.apply s w).value := by
  cases e with
  | available ps stock item first second =>
    exact forPlayers_changes (fun p w => give_changes stock item first second p w) _ w
  | revealRect ps x y width height =>
    exact forPlayers_changes (fun p w => changes_of_core rfl) _ w
  | revealPlace ps place range =>
    simp only [Effect.apply]
    split
    · exact forPlayers_changes (fun p w => changes_of_core rfl) _ w
    · exact .refl w
  | kill ps kind order count =>
    exact forPlayers_changes (fun p w => w.killCreatures_changes p kind order count) _ w
  | playMessage ps sort message => cases sort <;> exact display_changes ..
  | ally a b => exact (allyTo_changes ..).trans (allyTo_changes ..)
  | resetActionPoint number => exact resetPoint_changes ..
  | setTimer ps timer => exact onEach_changes _ w (steady_setTimer w.turn _)
  | setHate ps enemy hate => exact onEachDungeon_changes _ w (fun _ => rfl) fun _ => rfl
  | setFlag ps flag value => exact onEachDungeon_changes _ w (fun _ => rfl) fun _ => rfl
  | maxCreatures ps count => exact onEachDungeon_changes _ w (fun _ => rfl) fun _ => rfl
  | setMaxLevel ps kind level => exact onEachDungeon_changes _ w (fun _ => rfl) fun _ => rfl
  | addGold ps amount => exact onEachDungeon_changes _ w (fun _ => rfl) fun _ => rfl
  | research ps kind item amount =>
    exact onEach_changes _ w (Realm.steady_of_same _ (fun _ => rfl) (fun _ => rfl) fun _ => rfl)
  | researchOrder ps kind item amount =>
    exact onEach_changes _ w (Realm.steady_of_same _ (fun _ => rfl) (fun _ => rfl) fun _ => rfl)
  | setTendency ps tendency value =>
    refine onEach_changes _ w (Realm.steady_of_same _ (fun _ => ?_) (fun _ => ?_) fun _ => ?_)
    all_goals cases tendency <;> rfl
  | displayObjective message place pos => exact display_changes ..
  | displayInformation message place pos => exact display_changes ..
  | quickObjective index place pos => exact display_changes ..
  | quickInformation index place pos => exact display_changes ..
  | setGenerateSpeed turns => exact changes_of_core rfl
  | addToPool kind amount => exact changes_of_core rfl
  | flashButton button duration => exact changes_of_core rfl
  | setStat kind stat value => exact changes_of_core rfl
  | deadReturnToPool on => exact changes_of_core rfl
  | bonusTime turns => exact changes_of_core rfl

theorem Computer.length_plans_withPlans {c : Computer} {sort : PlanSort} {ps : List Plan}
    (same : ps.length = (c.plans sort).length) (other : PlanSort) :
    ((c.withPlans sort ps).plans other).length = (c.plans other).length := by
  cases sort <;> cases other <;> first | exact same | rfl

namespace Realm

theorem planned_setComputer (r : Realm) (model : Int) : (r.setComputer model).Planned := by
  rintro c here sort
  obtain rfl := Option.some.inj here
  cases sort <;> rfl

theorem Planned.setGlobals {r : Realm} (values : List Int) (planned : r.Planned) :
    (r.setGlobals values).Planned := by
  rintro c here sort
  obtain ⟨old, there, rfl⟩ := Option.map_eq_some_iff.1 here
  rw [← planned old there sort]
  cases sort <;> rfl

theorem Planned.setPlan {r : Realm} (sort : PlanSort) (name : String) (values : List Int)
    (planned : r.Planned) : (r.setPlan sort name values).Planned := by
  rintro c here other
  obtain ⟨old, there, rfl⟩ := Option.map_eq_some_iff.1 here
  rw [← planned old there other]
  exact Computer.length_plans_withPlans (List.length_map _) other

end Realm

open World in
theorem Setup.apply_changes {order : Setup} {w w' : World}
    (done : (order.apply w).value = .done w') : Changes w w' := by
  have steady {f : Realm → Realm} (same : ∀ r, (f r).dungeon = r.dungeon)
      (plans : ∀ r, r.Planned → (f r).Planned) : Realm.Steady w.turn f := by
    refine ⟨fun r => congrArg Dungeon.tallies (same r), fun r timed => ?_, plans⟩
    rw [same]
    exact timed
  cases order with
  | computerPlan sort players name values =>
    rw [Setup.apply_computerPlan, World.alterPlans_eq] at done
    dsimp only at done
    split at done
    · exact absurd done Attempt.failed_ne_done
    · obtain rfl := Attempt.done_inj done
      exact onEach_changes _ w (steady (fun _ => rfl) fun _ => Realm.Planned.setPlan sort name values)
  | swapCreature slot kind =>
    simp only [apply] at done
    split at done
    · obtain rfl := Attempt.done_inj done
      exact changes_of_core rfl
    · exact absurd done Attempt.failed_ne_done
  | music track =>
    obtain rfl := Attempt.done_inj done
    exact changes_of_core rfl
  | startMoney players amount =>
    obtain rfl := Attempt.done_inj done
    exact onEachDungeon_changes _ w (fun _ => rfl) fun _ => rfl
  | computerPlayer players model =>
    obtain rfl := Attempt.done_inj done
    exact onEach_changes _ w (steady (fun _ => rfl) fun r _ => r.planned_setComputer model)
  | computerGlobals players values =>
    obtain rfl := Attempt.done_inj done
    exact onEach_changes _ w (steady (fun _ => rfl) fun _ => Realm.Planned.setGlobals values)

/-! ## Turns -/

namespace World

theorem fireAll_changes {α : Type} (conditions : List Condition) {act : α → World → Logged World}
    (each : ∀ a w, Changes w (act a w).value) (entries : List (Gated α)) (w : World) :
    Changes w (Gated.fireAll conditions act entries w).value := by
  induction entries generalizing w with
  | nil => exact .refl w
  | cons e rest ih =>
    rw [Gated.fireAll]
    split
    · exact (each e.item w).trans (ih _)
    · exact ih w

theorem core_pronounce (w : World) (v : Verdict) (player : Nat) :
    (w.pronounce v player).core = w.core :=
  pronounce_keeps (k := core) (fun _ _ _ => rfl) w v player

theorem turn_changes (s : Script) (w : World) : Changes w (s.turn w).value.2 := by
  let swept := (sweep w s.conditions).value
  let counted := w.countReadings swept.readings
  have counts : Changes w counted := changes_of_core rfl
  have spawns := fireAll_changes swept.conditions (spawn_changes s.parties) s.spawns
  have tunnellers := fireAll_changes swept.conditions (sendOut_changes s.parties) s.tunnellers
  have effects := fireAll_changes swept.conditions (Effect.apply_changes s) s.effects
  have fires := ((counts.trans (spawns _)).trans (tunnellers _)).trans (effects _)
  exact fires.trans (changes_of_core (giveVerdicts_keeps core_pronounce _ _))

theorem activateAll_changes (due : List Activation) (w : World) :
    Changes w (activateAll due w).value := by
  induction due generalizing w with
  | nil => exact .refl w
  | cons a rest ih => exact (w.activate_changes a.point a.player).trans (ih _)

theorem advance_changes (w : World) : Changes { w with turn := w.turn + 1 } w.advance.value := by
  unfold advance
  refine Changes.trans ?_ (activateAll_changes _ _)
  split
  · exact .refl _
  · exact onEachDungeon_changes _ _ (fun _ => rfl) fun _ => rfl

end World

end DungeonScript
