import DungeonScript.Proofs.World.Plans
import DungeonScript.World.Spawning

/-!
What leaves what alone. Spawns, tunnellers and effects change realms, creatures, groups, points,
messages and the rules of the level; the turn, the seat at this machine, the verdicts given so far
and the timetable of the game are out of their reach (`spawn_frame`, `sendOut_frame`,
`apply_frame`).

Spawns and tunnellers change no more than creatures, groups and the counts of creatures: with these
taken out (`unpeopled`), the world is what it was (`spawn_unpeopled`, `sendOut_unpeopled`). What
effects and turns of the world do is said once for every part of the world that somebody may ask
about: it is the same afterwards if none of the few things they do touches it (`apply_keeps`,
`advance_keeps`, `pronounce_keeps`). What a setup order comes to is `apply_cases`.
-/

namespace DungeonScript

/-! ## Selectors -/

namespace Selector

theorem mem_everyone {players : Selector} {p : Player} :
    p ∈ players.everyone ↔ players.includes p.val = true := by
  have inside : p.val < playerCount := p.isLt
  simp only [everyone, Selector.players, List.mem_filter, List.mem_finRange, true_and,
    Bool.and_eq_true, decide_eq_true_eq]
  cases players with
  | all =>
    simpa only [bounds, includes, Nat.min_self, Nat.zero_le, true_and, iff_true]
  | one slot =>
    simp only [bounds, includes, beq_iff_eq]
    omega

theorem everyone_nodup (players : Selector) : players.everyone.Nodup :=
  List.Pairwise.filter _ (List.nodup_finRange playerCount)

theorem everyone_one (p : Player) : (one p).everyone = [p] := by
  revert p
  decide

end Selector

/-! ## Frames -/

/-- The part of a world that no stored entry changes. -/
structure Frame where
  turn : Nat
  myPlayer : Nat
  network : Bool
  names : Names
  gates : Catalogue (Int × Int)
  swaps : Array (Newcomer × Nat)
  won : List Nat
  lost : List Nat
  income : Int
  schedule : List Activation
  readings : Nat

/-- `f` leaves the research list alone, and whether a script has replaced it. -/
def Realm.SparesResearch (f : Realm → Realm) : Prop :=
  ∀ r, (f r).research = r.research ∧ (f r).researchReplaced = r.researchReplaced

/-- `f` leaves the timers and flags of the dungeon alone. -/
def Realm.SparesDials (f : Realm → Realm) : Prop :=
  ∀ r, (f r).dungeon.timers = r.dungeon.timers ∧ (f r).dungeon.flags = r.dungeon.flags

def Realm.SparesDiggers (f : Realm → Realm) : Prop :=
  ∀ r, (f r).dungeon.diggers = r.dungeon.diggers

/-- `f` leaves alone whom the player is allied with. -/
def Realm.SparesAllies (f : Realm → Realm) : Prop :=
  ∀ r, (f r).dungeon.allied = r.dungeon.allied

/-- `f` leaves of a realm alone what cannot be given. -/
structure Realm.OnlyGives (f : Realm → Realm) : Prop where
  research : Realm.SparesResearch f
  diggers : Realm.SparesDiggers f
  allies : Realm.SparesAllies f
  tallies : ∀ r, ((f r).dungeon.creatures, (f r).dungeon.uncounted) =
    (r.dungeon.creatures, r.dungeon.uncounted)
  timers : ∀ r, (f r).dungeon.timers = r.dungeon.timers
  flags : ∀ r, (f r).dungeon.flags = r.dungeon.flags
  computer : ∀ r, (f r).computer = r.computer

/-- `f` leaves of a realm alone what cannot be set up. -/
structure Realm.SetsUp (f : Realm → Realm) : Prop where
  research : Realm.SparesResearch f
  dials : Realm.SparesDials f
  diggers : Realm.SparesDiggers f
  allies : Realm.SparesAllies f

/-- The dungeon with no creature counted. -/
def Dungeon.unpeopled (d : Dungeon) : Dungeon := { d with creatures := 0 }

namespace World

/-- The part of the world that no stored entry changes. -/
def frame (w : World) : Frame :=
  ⟨w.turn, w.myPlayer, w.network, w.names, w.gates, w.swaps, w.won, w.lost, w.income, w.schedule,
    w.readings⟩

/-- The world without its creatures and groups, and with no creature counted. -/
def unpeopled (w : World) : World := { w with
  creatures := #[]
  groups := #[]
  realms := w.realms.map (Realm.onDungeon Dungeon.unpeopled) }

theorem frame_of_unpeopled {w w' : World} (same : w'.unpeopled = w.unpeopled) :
    w'.frame = w.frame := by
  have frames : w'.unpeopled.frame = w.unpeopled.frame := congrArg frame same
  exact frames

theorem realm_unpeopled (w : World) (p : Player) :
    w.unpeopled.realm p = (w.realm p).onDungeon Dungeon.unpeopled := by
  simp only [realm, unpeopled, Vector.getElem_map]

theorem dungeon_of_unpeopled {w w' : World} (same : w'.unpeopled = w.unpeopled) (p : Player) :
    (w'.dungeon p).unpeopled = (w.dungeon p).unpeopled := by
  have here (w : World) : (w.dungeon p).unpeopled = (w.unpeopled.realm p).dungeon := by
    rw [realm_unpeopled]
    rfl
  rw [here, here, same]

/-! ## Realms -/

@[simp] theorem onRealm_frame (w : World) (p : Player) (f : Realm → Realm) :
    (w.onRealm p f).frame = w.frame := rfl

@[simp] theorem onDungeon_frame (w : World) (p : Player) (f : Dungeon → Dungeon) :
    (w.onDungeon p f).frame = w.frame := rfl

theorem realm_onRealm (w : World) (p q : Player) (f : Realm → Realm) :
    (w.onRealm p f).realm q = if p = q then f (w.realm q) else w.realm q := by
  split
  · rename_i same
    subst same
    exact w.realm_onRealm_self p f
  · rename_i ne
    exact w.realm_onRealm_of_ne f ne

/-- What `f` leaves alone in every realm is as it was in the realm of any player. -/
theorem realm_onRealm_keeps {α : Type} {k : Realm → α} {f : Realm → Realm}
    (same : ∀ r, k (f r) = k r) (w : World) (p q : Player) :
    k ((w.onRealm p f).realm q) = k (w.realm q) := by
  rw [realm_onRealm]
  split
  · exact same (w.realm q)
  · rfl

/-- What the change to each of these realms leaves alone is left alone by all of them. -/
theorem onEach_keeps {α : Type} {k : World → α} {f : Realm → Realm} {players : List Player}
    (each : ∀ p ∈ players, ∀ w : World, k (w.onRealm p f) = k w) (w : World) :
    k (w.onEach players f) = k w := by
  induction players generalizing w with
  | nil => rfl
  | cons p rest ih =>
    obtain ⟨first, later⟩ := List.forall_mem_cons.1 each
    exact (ih later (w.onRealm p f)).trans (first w)

@[simp] theorem onEach_frame (f : Realm → Realm) (players : List Player) (w : World) :
    (w.onEach players f).frame = w.frame :=
  onEach_keeps (k := frame) (fun p _ w => onRealm_frame w p f) w

@[simp] theorem onEachDungeon_frame (players : List Player) (f : Dungeon → Dungeon) (w : World) :
    (w.onEachDungeon players f).frame = w.frame :=
  onEach_frame _ players w

theorem realm_onEach_of_not_mem (f : Realm → Realm) {players : List Player} (w : World)
    {p : Player} (absent : p ∉ players) : (w.onEach players f).realm p = w.realm p := by
  refine onEach_keeps (k := fun w => w.realm p) (fun q there w => ?_) w
  exact realm_onRealm_of_ne w f fun same => absent (same ▸ there)

theorem realm_onEach (f : Realm → Realm) {players : List Player} (once : players.Nodup)
    (w : World) {p : Player} (there : p ∈ players) :
    (w.onEach players f).realm p = f (w.realm p) := by
  induction players generalizing w with
  | nil => cases there
  | cons q rest ih =>
    obtain ⟨fresh, once⟩ := List.nodup_cons.1 once
    show ((w.onRealm q f).onEach rest f).realm p = _
    rcases List.mem_cons.1 there with rfl | later
    · rw [realm_onEach_of_not_mem f _ fresh, realm_onRealm_self]
    · have ne : q ≠ p := fun same => fresh (same ▸ later)
      rw [ih once _ later, realm_onRealm_of_ne w f ne]

/-- What a change to the realms of the players named does to the realm of any player. -/
theorem realm_onEach_everyone (ps : Selector) (f : Realm → Realm) (w : World) (p : Player) :
    (w.onEach ps.everyone f).realm p = if ps.includes p then f (w.realm p) else w.realm p := by
  split
  · rename_i named
    exact realm_onEach f (Selector.everyone_nodup ps) w (Selector.mem_everyone.2 named)
  · rename_i other
    exact realm_onEach_of_not_mem f w (mt Selector.mem_everyone.1 other)

theorem realm_forNewLevel (w : World) (p : Player) :
    w.forNewLevel.realm p = (w.realm p).onDungeon Dungeon.forNewLevel := by
  show (w.onEach Selector.all.everyone (Realm.onDungeon Dungeon.forNewLevel)).realm p = _
  exact realm_onEach_everyone .all _ w p

/-! ## Creatures -/

theorem onDungeon_unpeopled (w : World) (p : Player) {f : Dungeon → Dungeon}
    (same : ∀ d, (f d).unpeopled = d.unpeopled) : (w.onDungeon p f).unpeopled = w.unpeopled := by
  have realms : (w.onDungeon p f).unpeopled.realms = w.unpeopled.realms := by
    apply Vector.ext
    intro i hi
    simp only [unpeopled, onDungeon, onRealm, Vector.getElem_map, getElem_updateAt]
    split
    · simp only [Realm.onDungeon, same]
    · rfl
  exact congrArg (fun realms => { w.unpeopled with realms }) realms

@[simp] theorem onCreature_unpeopled (w : World) (id : Nat) (f : Creature → Creature) :
    (w.onCreature id f).unpeopled = w.unpeopled := rfl

@[simp] theorem onGroup_unpeopled (w : World) (g : Nat) (f : Group → Group) :
    (w.onGroup g f).unpeopled = w.unpeopled := rfl

@[simp] theorem initCreature_unpeopled (w : World) (id : Nat) (gold : Int) (level : Nat) :
    (w.initCreature id gold level).unpeopled = w.unpeopled := rfl

@[simp] theorem setObjective_unpeopled (w : World) (id : Nat) (o : Objective) (start : Nat) :
    (w.setObjective id o start).unpeopled = w.unpeopled := rfl

@[simp] theorem sendTunneller_unpeopled (w : World) (id : Nat) (heading : Heading) (target : Int) :
    (w.sendTunneller id heading target).1.unpeopled = w.unpeopled := rfl

@[simp] theorem createCreature_unpeopled (w : World) (owner : Player) (kind : Nat) (place : Place) :
    (w.createCreature owner kind place).1.unpeopled = w.unpeopled := by
  unfold createCreature
  split
  · exact onDungeon_unpeopled _ owner fun _ => rfl
  · rfl

@[simp] theorem killOnes_unpeopled (p : Player) (ids : List Nat) (w : World) :
    (ids.foldl (killOne p) w).unpeopled = w.unpeopled := by
  induction ids generalizing w with
  | nil => rfl
  | cons id rest ih => exact (ih (killOne p w id)).trans (onDungeon_unpeopled _ p fun _ => rfl)

/-! ## Groups -/

@[simp] theorem groupOf_unpeopled (w : World) (id : Nat) :
    (w.groupOf id).1.unpeopled = w.unpeopled := by
  unfold groupOf
  split
  · rfl
  · split <;> rfl

@[simp] theorem leave_unpeopled (w : World) (id : Nat) (old : Option Nat) :
    (w.leave id old).unpeopled = w.unpeopled := by
  cases old <;> rfl

@[simp] theorem join_unpeopled (w : World) (id member : Nat) : (w.join id member).1.unpeopled = w.unpeopled := by
  have h := w.groupOf_unpeopled member
  unfold join
  split
  · rename_i hg
    rw [hg] at h
    exact h
  · rename_i hg
    rw [hg] at h
    split
    · exact h
    · split
      · exact h
      · simpa using h

@[simp] theorem addToGroup_unpeopled (w : World) (id member : Nat) :
    (w.addToGroup id member).unpeopled = w.unpeopled :=
  w.join_unpeopled id member

@[simp] theorem addAsLeader_unpeopled (w : World) (id member : Nat) :
    (w.addAsLeader id member).unpeopled = w.unpeopled := by
  have h := w.join_unpeopled id member
  unfold addAsLeader
  split
  · rename_i hj
    rw [hj] at h
    exact h
  · rename_i hj
    rw [hj] at h
    exact h

@[simp] theorem meet_unpeopled (w : World) (id : Nat) (previous leader : Option Nat) :
    (w.meet id previous leader).1.unpeopled = w.unpeopled := by
  unfold meet
  split
  · rfl
  · split <;> simp

/-! ## Spawns and tunnellers -/

@[simp] theorem spawnCreature_unpeopled (w : World) (owner : Player) (kind : Nat) (place : Place)
    (gold : Int) (level : Nat) :
    (w.spawnCreature owner kind place gold level).value.1.unpeopled = w.unpeopled := by
  have h : (if place.canSpawn then w.createCreature owner kind place else (w, none)).1.unpeopled =
      w.unpeopled := by
    split <;> simp
  unfold spawnCreature
  split
  · rename_i hc
    rw [hc] at h
    exact h
  · rename_i hc
    rw [hc] at h
    exact h

@[simp] theorem spawnCopies_unpeopled (owner : Player) (kind : Nat) (place : Place) (gold : Int)
    (level copies : Nat) (w : World) :
    (spawnCopies owner kind place gold level copies w).value.unpeopled = w.unpeopled := by
  induction copies generalizing w with
  | zero => rfl
  | succ copies ih =>
    rw [spawnCopies, Logged.value_bind]
    exact (ih _).trans (spawnCreature_unpeopled ..)

@[simp] theorem spawnMembers_unpeopled (owner : Player) (place : Place) (members : List Member)
    (previous leader : Option Nat) (w : World) :
    (spawnMembers owner place members previous leader w).value.1.unpeopled = w.unpeopled := by
  induction members generalizing previous leader w with
  | nil => rfl
  | cons m rest ih =>
    have h := w.spawnCreature_unpeopled owner m.kind place m.gold m.level
    rw [spawnMembers, Logged.value_bind]
    split
    · rename_i hs
      rw [hs] at h
      exact (ih _ _ _).trans h
    · rename_i w' id hs
      rw [hs] at h
      let met := w'.setObjective id m.objective (w'.countdownEnd m.countdown)
      have hm : (met.meet id previous leader).1.unpeopled = w.unpeopled := (met.meet_unpeopled ..).trans h
      exact (ih _ _ _).trans hm

@[simp] theorem spawnParty_unpeopled (party : Party) (owner : Player) (place : Place) :
    ∀ (copies : Nat) (w : World), (spawnParty party owner place copies w).value.1.unpeopled = w.unpeopled
  | 0, _ => rfl
  | 1, w => spawnMembers_unpeopled owner place party.members none none w
  | copies + 2, w => by
    rw [spawnParty, Logged.value_bind]
    · exact (spawnParty_unpeopled party owner place (copies + 1) _).trans (spawnMembers_unpeopled ..)
    · omega

@[simp] theorem spawnTunneller_unpeopled (w : World) (t : Tunneller) :
    (w.spawnTunneller t).value.1.unpeopled = w.unpeopled := by
  have h := w.spawnCreature_unpeopled t.owner tunnellerKind t.place t.gold t.level
  rw [spawnTunneller, Logged.value_bind]
  split
  · rename_i hs
    rw [hs] at h
    exact h
  · rename_i hs
    rw [hs] at h
    simp only
    split <;> exact h

@[simp] theorem spawnTunnellerParty_unpeopled (w : World) (party : Party) (t : Tunneller) :
    (w.spawnTunnellerParty party t).value.unpeopled = w.unpeopled := by
  have h := w.spawnTunneller_unpeopled t
  rw [spawnTunnellerParty, Logged.value_bind]
  split
  · rename_i hs
    rw [hs] at h
    exact h
  · rename_i w' id hs
    rw [hs] at h
    have hp := spawnParty_unpeopled party t.owner t.place 1 w'
    rw [Logged.value_bind]
    split
    · rename_i hq
      rw [hq] at hp
      exact hp.trans h
    · rename_i hq
      rw [hq] at hp
      exact (addAsLeader_unpeopled ..).trans (hp.trans h)

/-- A spawn changes no more than creatures, groups and the counts of creatures. -/
theorem spawn_unpeopled (parties : List Party) (s : Spawn) (w : World) :
    (spawn parties s w).value.unpeopled = w.unpeopled := by
  unfold spawn
  split
  · split
    · exact spawnParty_unpeopled ..
    · rfl
  · exact spawnCopies_unpeopled ..

/-- A tunneller changes no more than creatures, groups and the counts of creatures. -/
theorem sendOut_unpeopled (parties : List Party) (t : Tunneller) (w : World) :
    (sendOut parties t w).value.unpeopled = w.unpeopled := by
  unfold sendOut
  split
  · exact spawnTunnellerParty_unpeopled ..
  · exact spawnTunneller_unpeopled ..

theorem spawn_frame (parties : List Party) (s : Spawn) (w : World) :
    (spawn parties s w).value.frame = w.frame :=
  frame_of_unpeopled (spawn_unpeopled parties s w)

theorem sendOut_frame (parties : List Party) (t : Tunneller) (w : World) :
    (sendOut parties t w).value.frame = w.frame :=
  frame_of_unpeopled (sendOut_unpeopled parties t w)

/-! ## Effects -/

theorem value_forPlayers (f : Player → World → Logged World) (players : List Player) (w : World) :
    (forPlayers f players w).value = players.foldl (fun w p => (f p w).value) w := by
  induction players generalizing w with
  | nil => rfl
  | cons p rest ih => exact ih _

/-- What the change for each of these players leaves alone is left alone by all of them. -/
theorem forPlayers_keeps {α : Type} {k : World → α} {f : Player → World → Logged World}
    {players : List Player} (each : ∀ p ∈ players, ∀ w, k (f p w).value = k w) (w : World) :
    k (forPlayers f players w).value = k w := by
  induction players generalizing w with
  | nil => rfl
  | cons p rest ih =>
    obtain ⟨first, later⟩ := List.forall_mem_cons.1 each
    exact (ih later (f p w).value).trans (first w)

/-- What is given to one player changes that player's realm, or nothing at all if there is no such
    item. -/
theorem give_gift (stock : Stock) (item : Nat) (first second : Int) (p : Player) (w : World) :
    let w' := (give stock item first second p w).value
    w' = w ∨ ∃ f : Realm → Realm, Realm.OnlyGives f ∧ w' = w.onRealm p f := by
  have given : ∀ {f : Realm → Realm}, Realm.OnlyGives f →
      ∃ g : Realm → Realm, Realm.OnlyGives g ∧ w.onRealm p f = w.onRealm p g :=
    fun gives => ⟨_, gives, rfl⟩
  unfold give
  cases stock with
  | room => exact .inr (given ⟨fun _ => ⟨rfl, rfl⟩, fun _ => rfl, fun _ => rfl, fun _ => rfl,
      fun _ => rfl, fun _ => rfl, fun _ => rfl⟩)
  | trap => exact .inr (given ⟨fun _ => ⟨rfl, rfl⟩, fun _ => rfl, fun _ => rfl, fun _ => rfl,
      fun _ => rfl, fun _ => rfl, fun _ => rfl⟩)
  | door => exact .inr (given ⟨fun _ => ⟨rfl, rfl⟩, fun _ => rfl, fun _ => rfl, fun _ => rfl,
      fun _ => rfl, fun _ => rfl, fun _ => rfl⟩)
  | creature =>
    simp only
    split
    · exact .inr (given ⟨fun _ => ⟨rfl, rfl⟩, fun _ => rfl, fun _ => rfl, fun _ => rfl,
      fun _ => rfl, fun _ => rfl, fun _ => rfl⟩)
    · exact .inl rfl
  | magic =>
    simp only
    split
    · exact .inr (given ⟨fun _ => ⟨rfl, rfl⟩, fun _ => rfl, fun _ => rfl, fun _ => rfl,
      fun _ => rfl, fun _ => rfl, fun _ => rfl⟩)
    · exact .inl rfl

end World

/-- Whether the effect is about research lists. -/
def Effect.aboutResearch : Effect → Bool
  | research _ _ _ _ => true
  | researchOrder _ _ _ _ => true
  | _ => false

/-- Whether the effect is about timers and flags. -/
def Effect.aboutDials : Effect → Bool
  | setTimer _ _ => true
  | setFlag _ _ _ => true
  | _ => false

def Effect.aboutAllies : Effect → Bool
  | ally _ _ => true
  | _ => false

/-- `f` leaves alone of a realm what the effect is not about. -/
structure Effect.Spares (e : Effect) (f : Realm → Realm) : Prop where
  research : e.aboutResearch = false → Realm.SparesResearch f
  dials : e.aboutDials = false → Realm.SparesDials f
  diggers : Realm.SparesDiggers f
  allies : e.aboutAllies = false → Realm.SparesAllies f

open World in
/-- **What effects leave alone.** An effect changes realms, one after the other, but not the counts
    of diggers, and research lists, timers, flags and alliances only if it is about these; it kills
    creatures; and it changes rules, statistics, the pool, action points and what is shown. What no
    such change touches is the same after it. -/
theorem Effect.apply_keeps {α : Type} {k : World → α} {e : Effect}
    (realm : ∀ p f (w : World), e.Spares f → k (w.onRealm p f) = k w)
    (kill : ∀ p (w : World) id, k (killOne p w id) = k w)
    (aside : ∀ (w : World) rules stats pool points flashing messages revealed,
      k { w with rules, stats, pool, points, flashing, messages, revealed } = k w)
    (s : Script) (w : World) : k (e.apply s w).value = k w := by
  have each (f : Realm → Realm) (players : List Player) (w : World) (spares : e.Spares f) :
      k (w.onEach players f) = k w := onEach_keeps (fun p _ w => realm p f w spares) w
  have shown (ps : Selector) (m : Message) : k (w.display ps m) = k w := by
    unfold display
    split
    · exact aside w _ _ _ _ _ _ _
    · rfl
  cases e with
  | available ps stock item first second =>
    refine forPlayers_keeps (fun p _ w => ?_) w
    rcases give_gift stock item first second p w with same | ⟨f, gives, same⟩
    · rw [same]
    · rw [same]
      exact realm p f w
        ⟨fun _ => gives.research, fun _ r => ⟨gives.timers r, gives.flags r⟩, gives.diggers,
          fun _ => gives.allies⟩
  | kill ps kind order count =>
    refine forPlayers_keeps (fun p _ w => ?_) w
    show k ((w.victims p kind order count).foldl (killOne p) w) = k w
    generalize w.victims p kind order count = ids
    induction ids generalizing w with
    | nil => rfl
    | cons id rest ih => exact (ih (killOne p w id)).trans (kill p w id)
  | revealRect => exact forPlayers_keeps (fun p _ w => aside w _ _ _ _ _ _ _) w
  | revealPlace =>
    simp only [apply]
    split
    · exact forPlayers_keeps (fun p _ w => aside w _ _ _ _ _ _ _) w
    · rfl
  | ally a b =>
    have allied (a b : Nat) (w : World) : k (w.allyTo a b) = k w := by
      unfold allyTo
      split
      · exact realm _ _ w ⟨fun _ _ => ⟨rfl, rfl⟩, fun _ _ => ⟨rfl, rfl⟩, fun _ => rfl, nofun⟩
      · rfl
    exact (allied b a _).trans (allied a b w)
  | resetActionPoint number =>
    show k (w.resetPoint number) = k w
    unfold resetPoint
    split
    · exact aside w _ _ _ _ _ _ _
    · rfl
  | playMessage ps channel message => cases channel <;> exact shown ps _
  | setHate =>
    exact each _ _ w ⟨fun _ _ => ⟨rfl, rfl⟩, fun _ _ => ⟨rfl, rfl⟩, fun _ => rfl, fun _ _ => rfl⟩
  | research => exact each _ _ w ⟨nofun, fun _ _ => ⟨rfl, rfl⟩, fun _ => rfl, fun _ _ => rfl⟩
  | researchOrder => exact each _ _ w ⟨nofun, fun _ _ => ⟨rfl, rfl⟩, fun _ => rfl, fun _ _ => rfl⟩
  | setTimer => exact each _ _ w ⟨fun _ _ => ⟨rfl, rfl⟩, nofun, fun _ => rfl, fun _ _ => rfl⟩
  | setFlag => exact each _ _ w ⟨fun _ _ => ⟨rfl, rfl⟩, nofun, fun _ => rfl, fun _ _ => rfl⟩
  | maxCreatures =>
    exact each _ _ w ⟨fun _ _ => ⟨rfl, rfl⟩, fun _ _ => ⟨rfl, rfl⟩, fun _ => rfl, fun _ _ => rfl⟩
  | setMaxLevel =>
    exact each _ _ w ⟨fun _ _ => ⟨rfl, rfl⟩, fun _ _ => ⟨rfl, rfl⟩, fun _ => rfl, fun _ _ => rfl⟩
  | addGold =>
    exact each _ _ w ⟨fun _ _ => ⟨rfl, rfl⟩, fun _ _ => ⟨rfl, rfl⟩, fun _ => rfl, fun _ _ => rfl⟩
  | setTendency ps tendency value =>
    refine each _ _ w ⟨fun _ r => ?_, fun _ r => ?_, fun r => ?_, fun _ r => ?_⟩
    · cases tendency <;> exact ⟨rfl, rfl⟩
    · cases tendency <;> exact ⟨rfl, rfl⟩
    · cases tendency <;> rfl
    · cases tendency <;> rfl
  | displayObjective => exact shown .all _
  | displayInformation => exact shown .all _
  | quickObjective => exact shown .all _
  | quickInformation => exact shown .all _
  | setGenerateSpeed => exact aside w _ _ _ _ _ _ _
  | addToPool => exact aside w _ _ _ _ _ _ _
  | flashButton => exact aside w _ _ _ _ _ _ _
  | setStat => exact aside w _ _ _ _ _ _ _
  | deadReturnToPool => exact aside w _ _ _ _ _ _ _
  | bonusTime => exact aside w _ _ _ _ _ _ _

theorem Effect.apply_frame (s : Script) (e : Effect) (w : World) :
    (e.apply s w).value.frame = w.frame :=
  Effect.apply_keeps (k := World.frame) (fun _ _ _ _ => rfl) (fun _ _ _ => rfl)
    (fun _ _ _ _ _ _ _ _ => rfl) s w

/-! ## Turns of the world -/

/-- **What a turn of the world leaves alone.** Keepers earn gold and action points are entered. What
    neither touches is what it was, but for the number of the turn. -/
theorem World.advance_keeps {α : Type} {k : World → α}
    (gold : ∀ p ∈ keepers, ∀ amount (w : World), k (w.onDungeon p (·.addGold amount)) = k w)
    (entry : ∀ (w : World) number old activations, w.points.get? number = some old →
      k { w with points := w.points.put number { old with activations } } = k w) (w : World) :
    k w.advance.value = k { w with turn := w.turn + 1 } := by
  have entries (due : List Activation) (w : World) : k (activateAll due w).value = k w := by
    induction due generalizing w with
    | nil => rfl
    | cons a rest ih =>
      refine (ih _).trans ?_
      unfold activate
      split
      · rename_i here
        exact entry w _ _ _ here
      · rfl
  unfold advance
  refine (entries _ _).trans ?_
  split
  · rfl
  · exact onEach_keeps (fun p keeper w => gold p keeper _ w) _

theorem World.turn_advance (w : World) : w.advance.value.turn = w.turn + 1 :=
  advance_keeps (k := turn) (fun _ _ _ _ => rfl) (fun _ _ _ _ _ => rfl) w

/-! ## Verdicts -/

/-- A verdict leaves alone whatever does not tell who has won and who has lost. -/
theorem World.pronounce_keeps {α : Type} {k : World → α}
    (verdicts : ∀ (w : World) won lost, k { w with won, lost } = k w) (w : World) (v : Verdict)
    (player : Nat) : k (w.pronounce v player) = k w := by
  cases v with
  | win =>
    unfold pronounce
    simp only
    split
    · rfl
    · exact verdicts w _ w.lost
  | lose =>
    unfold pronounce
    simp only
    split
    · rfl
    · exact verdicts w w.won _

/-! ## Setup orders -/

theorem World.onEach_eq (players : List Player) (f : Realm → Realm) (w : World) :
    w.onEach players f = { w with realms := (w.onEach players f).realms } := by
  induction players generalizing w with
  | nil => rfl
  | cons p rest ih => exact ih (w.onRealm p f)

/-- What comes of a setup order: realms get gold or other computer players, or the rules or the
    swaps change. -/
theorem Setup.apply_cases {order : Setup} {w w' : World} (done : (order.apply w).value = .done w') :
    (∃ f players, Realm.SetsUp f ∧ w' = w.onEach players f) ∨
      ∃ rules swaps, w' = { w with rules, swaps } := by
  cases order with
  | computerPlan sort players name values =>
    rw [Setup.apply_computerPlan, World.alterPlans_eq] at done
    dsimp only at done
    split at done
    · exact absurd done Attempt.failed_ne_done
    · obtain rfl := Attempt.done_inj done
      exact .inl ⟨Realm.setPlan sort name values, _,
        ⟨fun _ => ⟨rfl, rfl⟩, fun _ => ⟨rfl, rfl⟩, fun _ => rfl, fun _ => rfl⟩, rfl⟩
  | swapCreature slot kind =>
    simp only [apply] at done
    split at done
    · obtain rfl := Attempt.done_inj done
      exact .inr ⟨w.rules, _, rfl⟩
    · exact absurd done Attempt.failed_ne_done
  | music track =>
    obtain rfl := Attempt.done_inj done
    exact .inr ⟨_, w.swaps, rfl⟩
  | startMoney players amount =>
    obtain rfl := Attempt.done_inj done
    exact .inl ⟨Realm.onDungeon (·.addGold amount), _,
      ⟨fun _ => ⟨rfl, rfl⟩, fun _ => ⟨rfl, rfl⟩, fun _ => rfl, fun _ => rfl⟩, rfl⟩
  | computerPlayer players model =>
    obtain rfl := Attempt.done_inj done
    exact .inl ⟨Realm.setComputer model, _,
      ⟨fun _ => ⟨rfl, rfl⟩, fun _ => ⟨rfl, rfl⟩, fun _ => rfl, fun _ => rfl⟩, rfl⟩
  | computerGlobals players values =>
    obtain rfl := Attempt.done_inj done
    exact .inl ⟨Realm.setGlobals values, _,
      ⟨fun _ => ⟨rfl, rfl⟩, fun _ => ⟨rfl, rfl⟩, fun _ => rfl, fun _ => rfl⟩, rfl⟩

theorem Setup.apply_elsewhere {order : Setup} {w w' : World}
    (done : (order.apply w).value = .done w') :
    ∃ realms rules swaps, w' = { w with realms, rules, swaps } := by
  rcases Setup.apply_cases done with ⟨f, players, _, rfl⟩ | ⟨rules, swaps, rfl⟩
  · exact ⟨_, w.rules, w.swaps, World.onEach_eq players f w⟩
  · exact ⟨w.realms, rules, swaps, rfl⟩

/-! ## Parts of a realm -/

/-- What `k` reads of a realm is neither the count of creatures, nor anything that can be set up,
    nor cleared for a new level. -/
structure Realm.Lasting {α : Type} (k : Realm → α) : Prop where
  unpeopled : ∀ r, k (r.onDungeon Dungeon.unpeopled) = k r
  newLevel : ∀ r, k (r.onDungeon Dungeon.forNewLevel) = k r
  setUp : ∀ {f : Realm → Realm}, Realm.SetsUp f → ∀ r, k (f r) = k r

namespace Realm.Lasting

variable {α : Type} {k : Realm → α}

theorem of_unpeopled (lasting : Realm.Lasting k) {w w' : World}
    (same : w'.unpeopled = w.unpeopled) (p : Player) : k (w'.realm p) = k (w.realm p) := by
  have here (w : World) : k (w.unpeopled.realm p) = k (w.realm p) := by
    rw [World.realm_unpeopled, lasting.unpeopled]
  rw [← here, same, here]

theorem forNewLevel (lasting : Realm.Lasting k) (w : World) (p : Player) :
    k (w.forNewLevel.realm p) = k (w.realm p) := by
  rw [World.realm_forNewLevel, lasting.newLevel]

theorem setup_apply (lasting : Realm.Lasting k) {order : Setup} {w w' : World}
    (done : (order.apply w).value = .done w') (p : Player) : k (w'.realm p) = k (w.realm p) := by
  rcases Setup.apply_cases done with ⟨f, players, setsUp, rfl⟩ | ⟨rules, swaps, rfl⟩
  · exact World.onEach_keeps (k := fun w => k (w.realm p))
      (fun q _ w => World.realm_onRealm_keeps (lasting.setUp setsUp) w q p) w
  · rfl

/-- A turn of the world leaves it alone: the gold it gives could have been set up. -/
theorem advance (lasting : Realm.Lasting k) (w : World) (p : Player) :
    k (w.advance.value.realm p) = k (w.realm p) := by
  refine World.advance_keeps (k := fun w => k (w.realm p)) (fun q _ amount w => ?_)
    (fun _ _ _ _ _ => rfl) w
  have gold : Realm.SetsUp (Realm.onDungeon (·.addGold amount)) :=
    ⟨fun _ => ⟨rfl, rfl⟩, fun _ => ⟨rfl, rfl⟩, fun _ => rfl, fun _ => rfl⟩
  exact World.realm_onRealm_keeps (lasting.setUp gold) w q p

theorem effect_apply (lasting : Realm.Lasting k) {e : Effect}
    (spared : ∀ {f : Realm → Realm}, e.Spares f → ∀ r, k (f r) = k r) (s : Script) (w : World)
    (p : Player) : k ((e.apply s w).value.realm p) = k (w.realm p) :=
  Effect.apply_keeps (k := fun w => k (w.realm p))
    (fun q _ w spares => World.realm_onRealm_keeps (spared spares) w q p)
    (fun q w id => lasting.of_unpeopled (World.killOnes_unpeopled q [id] w) p)
    (fun _ _ _ _ _ _ _ _ => rfl) s w

end Realm.Lasting

end DungeonScript
