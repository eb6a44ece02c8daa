import DungeonScript.Proofs.Game.Refusal
import DungeonScript.Proofs.Machine.Spawning

/-!
The machine changes the world. Tables are indexed by numbers that have been wrapped around at
their end, or that were compared with it; players are gone through by number; a death takes one
from a count; the plans of computer players are counted as they are altered; and a turn is counted
before anything else happens on it.
-/

namespace DungeonScript

open World

namespace Machine

variable {w : World}

/-! ## Gifts -/

/-- A change to realms, made for every player that a command acts on. -/
def onEveryone (ps : Selector) (f : Realm → Checked Realm) (w : World) : Checked World :=
  forPlayers (onRealm f) (players playerCount ps) w

theorem onEveryone_eq {f : Realm → Checked Realm} {g : Realm → Realm}
    (each : ∀ r, f r = .ok (g r)) (ps : Selector) (w : World) :
    onEveryone ps f w = .ok (w.onEach ps.everyone g) := by
  unfold onEveryone
  rw [players_eq]
  exact onEach_eq each _ w

def giveRoom (room : Nat) (first second : Int) (r : Realm) : Checked Realm := do
  let i ← wrapped roomTypes room
  return { r with
    rooms := r.rooms.put room (first, second)
    dungeon := { r.dungeon with
      roomBuildable := updateAt r.dungeon.roomBuildable i fun _ => second } }

def giveTrap (trap : Nat) (first second : Int) (r : Realm) : Checked Realm := do
  let i ← wrapped trapTypes trap
  return r.onDungeon fun d => { d with
    trapBuildable := updateAt d.trapBuildable i fun _ => first
    trapAmount := updateAt d.trapAmount i fun _ => second
    trapPlaceable := updateAt d.trapPlaceable i fun old => if second ≠ 0 then second else old }

def giveDoor (door : Nat) (first second : Int) (r : Realm) : Checked Realm := do
  let i ← wrapped doorTypes door
  return r.onDungeon fun d => { d with
    doorBuildable := updateAt d.doorBuildable i fun _ => first
    doorAmount := updateAt d.doorAmount i fun _ => second
    doorPlaceable := updateAt d.doorPlaceable i fun old => if second ≠ 0 then second else old }

/-- The realm with a power given, which is known to be in the table. -/
def givePower (power : Nat) (first second : Int) (r : Realm) : Checked Realm := do
  let i ← slot powerTypes power
  return { r with
    powers := r.powers.put power (first, second)
    dungeon := { r.dungeon with
      powerLevel := updateAt r.dungeon.powerLevel i fun _ => second } }

def give (stock : Stock) (item : Nat) (first second : Int) (p : Nat) (w : World) :
    Checked World :=
  match stock with
  | .room => onRealm (giveRoom item first second) p w
  | .trap => onRealm (giveTrap item first second) p w
  | .door => onRealm (giveDoor item first second) p w
  | .creature =>
    if item < creatureTypes then
      onRealm (fun r => pure (r.giveCreature item first second)) p w
    else pure w
  | .magic =>
    if item < powerTypes then onRealm (givePower item first second) p w else pure w

theorem give_eq (stock : Stock) (item : Nat) (first second : Int) (p : Player) (w : World) :
    give stock item first second p.val w = .ok (World.give stock item first second p w).value := by
  unfold give World.give
  cases stock with
  | room => exact onRealm_eq (fun _ => wrapped_bind roomTypes_pos item _) p w
  | trap => exact onRealm_eq (fun _ => wrapped_bind trapTypes_pos item _) p w
  | door => exact onRealm_eq (fun _ => wrapped_bind doorTypes_pos item _) p w
  | creature =>
    simp only
    split
    · exact onRealm_eq (fun _ => rfl) p w
    · rfl
  | magic =>
    simp only
    split
    · rename_i inside
      refine onRealm_eq (fun r => ?_) p w
      have known : slot powerTypes item = .ok (slotOf powerTypes_pos item) := by
        have same : slotOf powerTypes_pos item = ⟨item, inside⟩ := Fin.ext (Nat.mod_eq_of_lt inside)
        rw [same]
        exact slot_val ⟨item, inside⟩
      unfold givePower
      rw [known]
      rfl
    · rfl

/-- The world with player `a` allied to player `b`, if both slots exist. -/
def allyTo (a b : Nat) (w : World) : Checked World :=
  if a < playerCount ∧ b < playerCount then
    onRealm (fun r => do
      let q ← slot playerCount b
      return r.onDungeon fun d => { d with allied := updateAt d.allied q fun _ => true }) a w
  else pure w

theorem allyTo_eq (a b : Nat) (w : World) : allyTo a b w = .ok (w.allyTo a b) := by
  unfold allyTo World.allyTo playerAt?
  by_cases first : a < playerCount
  · by_cases second : b < playerCount
    · rw [if_pos ⟨first, second⟩, dif_pos first, dif_pos second]
      refine onRealm_eq (fun r => ?_) ⟨a, first⟩ w
      rw [slot_val ⟨b, second⟩]
      rfl
    · rw [if_neg (fun both => second both.2), dif_neg second]
      cases (if h : a < playerCount then some (⟨a, h⟩ : Player) else none) <;> rfl
  · rw [if_neg (fun both => first both.1), dif_neg first]
    rfl

/-- The world with a statistic of a creature kind set. -/
def setStat (kind : Nat) (stat : Stat) (value : Int) (w : World) : Checked World := do
  let i ← wrapped creatureTypes kind
  return { w with stats := updateAt w.stats i fun s =>
    match stat with
    | .health => { s with health := clamp (-32768) 32767 value }
    | .strength => { s with strength := clamp 0 255 value }
    | .armour => { s with armour := clamp 0 255 value }
    | .fear => { s with fear := clamp 0 255 value } }

theorem setStat_eq (kind : Nat) (stat : Stat) (value : Int) (w : World) :
    setStat kind stat value w = .ok (w.setStat kind stat value) :=
  wrapped_bind creatureTypes_pos kind _

/-- The world with more creatures of a kind to arrive. -/
def addToPool (kind : Nat) (amount : Int) (w : World) : Checked World := do
  let i ← wrapped creatureTypes kind
  return { w with pool := updateAt w.pool i fun n => saturate (n + amount) }

theorem addToPool_eq (kind : Nat) (amount : Int) (w : World) :
    addToPool kind amount w = .ok (w.addToPool kind amount) :=
  wrapped_bind creatureTypes_pos kind _

/-! ## Killing -/

/-- Creatures looked up by number, one after the other. -/
def lookUp (w : World) : List Nat → Checked Unit
  | [] => pure ()
  | id :: rest => do
    let _ ← found (w.creature? id)
    lookUp w rest

/-- Candidates in the order they are killed. To sort them they are looked up. -/
def killList (w : World) (order : KillOrder) (ids : List Nat) : Checked (List Nat) :=
  match order with
  | .anywhere => pure ids
  | _ => do
    lookUp w ids
    return w.killList order ids

/-- Kills creatures of a player and counts them; `killed` have been counted before. -/
def killAll (player : Nat) : List Nat → Int → World → Checked (World × Int)
  | [], killed, w => pure (w, killed)
  | id :: rest, killed, w => do
    let creatures ← modifyAt w.creatures id fun c => { c with alive := false }
    let p ← slot playerCount player
    let count ← signed ((w.dungeon p).creatures - 1)
    let killed ← signed (killed + 1)
    killAll player rest killed
      ({ w with creatures }.onDungeon p fun d => { d with creatures := count })

def killCreatures (w : World) (player kind : Nat) (order : KillOrder) (count : Int) :
    Checked World := do
  let p ← slot playerCount player
  let ids ← killList w order (w.candidates p kind)
  let (w, _) ← killAll player (ids.take count.toNat) 0 w
  return w

theorem lookUp_eq {ids : List Nat} (here : ∀ id ∈ ids, ∃ c, w.creature? id = some c) :
    lookUp w ids = .ok () := by
  induction ids with
  | nil => rfl
  | cons id rest ih =>
    obtain ⟨c, there⟩ := here id List.mem_cons_self
    rw [lookUp, there, found_some, ok_bind]
    exact ih fun other later => here other (List.mem_cons_of_mem id later)

theorem killAll_eq (p : Player) : ∀ (ids : List Nat) (killed : Int) {w : World}, w.Sound →
    ids.Nodup → (∀ id ∈ ids, ∃ c, w.creature? id = some c ∧ c.alive = true ∧ c.owner = p) →
    0 ≤ killed → killed + ids.length ≤ 4294967296 →
    killAll p.val ids killed w = .ok (ids.foldl (killOne p) w, killed + ids.length)
  | [], killed, w, _, _, _, _, _ => by
    rw [killAll, List.length_nil]
    exact congrArg (fun n => Except.ok (w, n)) (Int.add_zero killed).symm
  | id :: rest, killed, w, sound, once, living, least, most => by
    obtain ⟨notLater, restOnce⟩ := List.nodup_cons.1 once
    obtain ⟨c, here, alive, owner⟩ := living id List.mem_cons_self
    obtain ⟨inside, _⟩ := Array.getElem?_eq_some_iff.1 here
    have dies : Change w (killOne p w id) := .died here alive owner
    have bounds := creatures_bounds sound p
    rw [List.length_cons] at most
    -- those still to be killed live, as nobody is on the list twice
    have later := killAll_eq p rest (killed + 1) (dies.sound sound) restOnce
      (fun other later => by
        rw [creature?_killOne_of_ne (by rintro rfl; exact notLater later)]
        exact living other (List.mem_cons_of_mem id later)) (by omega) (by omega)
    rw [killAll, modifyAt_eq inside, ok_bind, slot_val, ok_bind,
      signed_eq (inRange_iff.2 (by omega)), ok_bind, signed_eq (inRange_iff.2 (by omega)), ok_bind]
    refine Eq.trans later ?_
    rw [List.length_cons, List.foldl_cons]
    exact congrArg (fun n => Except.ok (_, n)) (by omega)

theorem killCreatures_eq (sound : w.Sound) (p : Player) (kind : Nat)
    (order : KillOrder) (count : Int) :
    killCreatures w p.val kind order count = .ok (w.killCreatures p kind order count).1 := by
  obtain ⟨once, living⟩ := w.victims_spec p kind order count
  have candidates : ∀ id ∈ w.candidates p kind, ∃ c, w.creature? id = some c := by
    intro id candidate
    have inside : id < w.creatures.size := List.mem_range.1 (List.mem_filter.1 candidate).1
    exact ⟨_, Array.getElem?_eq_getElem inside⟩
  have sorted : killList w order (w.candidates p kind) =
      .ok (w.killList order (w.candidates p kind)) := by
    unfold killList
    split
    · rfl
    · rw [lookUp_eq candidates]
      rfl
  have many : (w.victims p kind order count).length ≤ w.creatures.size := by
    have all : (w.candidates p kind).length ≤ (List.range w.creatures.size).length :=
      List.length_filter_le ..
    have same := (w.killList_perm order (w.candidates p kind)).length_eq
    have taken : (w.victims p kind order count).length ≤ _ := List.length_take_le' ..
    rw [List.length_range] at all
    omega
  have numbered : w.creatures.size ≤ 4294967296 := sound.numbered
  unfold killCreatures
  rw [slot_val, ok_bind, sorted, ok_bind]
  have killed := killAll_eq p (w.victims p kind order count) 0 sound once living
    (Int.le_refl 0) (by omega)
  unfold World.victims at killed
  rw [killed]
  rfl

/-! ## Effects -/

def applyEffect (script : Script) (e : Effect) (w : World) : Checked World :=
  match e with
  | .setHate ps enemy hate =>
    onEveryone ps (fun r => do
      let i ← wrappedInt playerCount enemy
      return r.onDungeon fun d => { d with hates := updateAt d.hates i fun _ => hate }) w
  | .available ps stock item first second =>
    forPlayers (give stock item first second) (players playerCount ps) w
  | .research ps kind item amount =>
    onEveryone ps (fun r => pure (r.setResearch kind item amount)) w
  | .researchOrder ps kind item amount =>
    onEveryone ps (fun r => pure (r.orderResearch kind item amount)) w
  | .setTimer ps timer =>
    onEveryone ps (fun r => do
      let i ← wrapped timerCount timer
      return r.onDungeon fun d =>
        { d with timers := updateAt d.timers i fun _ => ⟨true, w.turn⟩ }) w
  | .setFlag ps flag value =>
    onEveryone ps (fun r => do
      let i ← wrapped flagCount flag
      return r.onDungeon fun d => { d with flags := updateAt d.flags i fun _ => value }) w
  | .maxCreatures ps count =>
    onEveryone ps (fun r => pure (r.onDungeon fun d => { d with maxCreatures := count })) w
  | .addToPool kind amount => addToPool kind amount w
  | .setMaxLevel ps kind level =>
    onEveryone ps (fun r => do
      let i ← wrapped creatureTypes kind
      return r.onDungeon fun d => { d with maxLevel := updateAt d.maxLevel i fun _ => level }) w
  | .setStat kind stat value => setStat kind stat value w
  | .ally a b => do allyTo b a (← allyTo a b w)
  | .addGold ps amount => onEveryone ps (fun r => pure (r.onDungeon (·.addGold amount))) w
  | .setTendency ps tendency value =>
    -- both tendencies of a player stand in a row of two
    onEveryone ps (fun r => do
      let _ ← slot 2 (match tendency with | .imprison => 0 | .flee => 1)
      return r.setTendency tendency value) w
  | .kill ps kind order count =>
    forPlayers (fun p w => killCreatures w p kind order count) (players playerCount ps) w
  | _ => pure (e.apply script w).value

/-- No effect crashes in a sound world. -/
theorem applyEffect_eq (script : Script) (e : Effect) (sound : w.Sound) :
    applyEffect script e w = .ok (e.apply script w).value := by
  cases e with
  | setHate ps enemy hate =>
    refine onEveryone_eq (fun r => ?_) ps w
    rw [wrappedInt_eq playerCount_pos]
    rfl
  | available ps stock item first second =>
    show forPlayers _ _ w = .ok (World.forPlayers _ _ w).value
    rw [players_eq, value_forPlayers]
    exact forPlayers_eq (fun _ => True)
      (fun p w _ => ⟨give_eq stock item first second p w, trivial⟩) _ trivial
  | research ps kind item amount => exact onEveryone_eq (fun _ => rfl) ps w
  | researchOrder ps kind item amount => exact onEveryone_eq (fun _ => rfl) ps w
  | setTimer ps timer => exact onEveryone_eq (fun _ => wrapped_bind timerCount_pos timer _) ps w
  | setFlag ps flag value => exact onEveryone_eq (fun _ => wrapped_bind flagCount_pos flag _) ps w
  | maxCreatures ps count => exact onEveryone_eq (fun _ => rfl) ps w
  | addToPool kind amount => exact addToPool_eq kind amount w
  | setMaxLevel ps kind level =>
    exact onEveryone_eq (fun _ => wrapped_bind creatureTypes_pos kind _) ps w
  | setStat kind stat value => exact setStat_eq kind stat value w
  | ally a b =>
    show allyTo a b w >>= allyTo b a = _
    rw [allyTo_eq, ok_bind, allyTo_eq]
    rfl
  | addGold ps amount => exact onEveryone_eq (fun _ => rfl) ps w
  | setTendency ps tendency value =>
    refine onEveryone_eq (fun r => ?_) ps w
    cases tendency <;> rfl
  | kill ps kind order count =>
    show forPlayers _ _ w = .ok (World.forPlayers _ _ w).value
    rw [players_eq, value_forPlayers]
    exact forPlayers_eq World.Sound (fun p w sound => ⟨killCreatures_eq sound p kind order count,
      (w.killCreatures_changes p kind order count).sound sound⟩) _ sound
  | _ => rfl

/-! ## Setup orders -/

/-- Plans with the numbers of those of the name replaced, and how many these are; `n` have been
    counted before. -/
def setMatching (name : String) (values : List Int) : List Plan → Nat → Checked (List Plan × Nat)
  | [], n => pure ([], n)
  | plan :: rest, n =>
    if sameWord plan.name name then do
      let n ← counter (n + 1)
      let (rest, n) ← setMatching name values rest n
      return ({ plan with values } :: rest, n)
    else do
      let (rest, n) ← setMatching name values rest n
      return (plan :: rest, n)

theorem setMatching_eq (name : String) (values : List Int) : ∀ (plans : List Plan) (n : Nat),
    n + plans.length < counterEnd → setMatching name values plans n =
      .ok (plans.map fun p => if sameWord p.name name then { p with values } else p,
        n + plans.countP fun p => sameWord p.name name)
  | [], _, _ => rfl
  | plan :: rest, n, fits => by
    rw [List.length_cons] at fits
    rw [setMatching, List.map_cons, List.countP_cons]
    split
    · rw [counter_eq (by omega), ok_bind, setMatching_eq name values rest (n + 1) (by omega)]
      exact congrArg (fun n => Except.ok (_, n)) (by omega)
    · rw [setMatching_eq name values rest n (by omega)]
      exact congrArg (fun n => Except.ok (_, n)) (by omega)

/-- Alters the plans of one name, one player after the other, and counts them. -/
def alterPlans (sort : PlanSort) (name : String) (values : List Int) :
    List Nat → Nat → World → Checked (Nat × World)
  | [], n, w => pure (n, w)
  | p :: rest, n, w => do
    let p ← slot playerCount p
    match (w.realm p).computer with
    | none => alterPlans sort name values rest n w
    | some c =>
      let (plans, count) ← setMatching name values (c.plans sort) 0
      let n ← counter (n + count)
      alterPlans sort name values rest n
        (w.onRealm p fun r => { r with computer := some (c.withPlans sort plans) })

theorem length_plans_le (sound : w.Sound) {p : Player} {c : Computer}
    (here : (w.realm p).computer = some c) (sort : PlanSort) : (c.plans sort).length ≤ 19 := by
  rw [sound.planned p c here sort]
  cases sort <;> decide

theorem onRealm_congr {p : Player} {f g : Realm → Realm} (same : f (w.realm p) = g (w.realm p)) :
    w.onRealm p f = w.onRealm p g := by
  show { w with realms := w.realms.set p (f (w.realm p)) } =
    { w with realms := w.realms.set p (g (w.realm p)) }
  rw [same]

theorem alterPlans_eq (sort : PlanSort) (name : String) (values : List Int) :
    ∀ (players : List Player) (n : Nat) {w : World}, w.Sound →
      n + 19 * players.length < counterEnd →
      alterPlans sort name values (players.map Fin.val) n w =
        .ok (w.alterPlans sort name values players n)
  | [], _, _, _, _ => rfl
  | p :: rest, n, w, sound, fits => by
    have steady : Realm.Steady w.turn (Realm.setPlan sort name values) :=
      ⟨fun _ => rfl, fun _ timed => timed, fun _ => Realm.Planned.setPlan sort name values⟩
    have later := alterPlans_eq sort name values rest
      (n + (w.realm p).matchingPlans sort name) (sound.realm p steady)
    rw [List.length_cons] at fits
    rw [List.map_cons, alterPlans, slot_val, ok_bind, World.alterPlans]
    cases here : (w.realm p).computer with
    | none =>
      -- the definition goes through such players too, but finds nothing to alter
      have counted : (w.realm p).matchingPlans sort name = 0 := by
        unfold Realm.matchingPlans
        rw [here]
      have same : w.onRealm p (Realm.setPlan sort name values) = w :=
        onRealm_eq_self (Realm.setPlan_of_none sort name values counted)
      rw [counted, Nat.add_zero, same] at later ⊢
      exact later (by omega)
    | some c =>
      have counted : (w.realm p).matchingPlans sort name = c.matching sort name := by
        unfold Realm.matchingPlans
        rw [here]
      have few : c.matching sort name ≤ (c.plans sort).length := List.countP_le_length
      have plans := length_plans_le sound here sort
      have altered : w.onRealm p (Realm.setPlan sort name values) =
          w.onRealm p fun r => { r with computer := some (c.setPlan sort name values) } := by
        refine onRealm_congr ?_
        unfold Realm.setPlan
        rw [here]
        rfl
      simp only [setMatching_eq name values (c.plans sort) 0 (by omega), ok_bind, Nat.zero_add]
      rw [counted] at later ⊢
      have sum : n + c.matching sort name < counterEnd := by omega
      show counter (n + c.matching sort name) >>= _ = _
      rw [counter_eq sum, ok_bind, ← later (by omega), altered]
      rfl

def applySetup (s : Setup) (w : World) : Checked (Attempt World) :=
  match s with
  | .startMoney ps amount =>
    .done <$> onEveryone ps (fun r => pure (r.onDungeon (·.addGold amount))) w
  | .computerPlayer ps model => .done <$> onEveryone ps (fun r => pure (r.setComputer model)) w
  | .computerGlobals ps values => .done <$> onEveryone ps (fun r => pure (r.setGlobals values)) w
  | .computerPlan sort ps name values => do
    let (count, w) ← alterPlans sort name values (players playerCount ps) 0 w
    if count = 0 then return .failed (.noPlan sort name) w else return .done w
  | .music _ | .swapCreature _ _ => pure (s.apply w).value

theorem length_everyone_le (ps : Selector) : ps.everyone.length ≤ playerCount := by
  have most := List.length_filter_le (fun p : Player =>
    decide ((ps.bounds playerCount).1 ≤ p.val) && decide (p.val < (ps.bounds playerCount).2))
    (List.finRange playerCount)
  rwa [List.length_finRange] at most

/-- No setup order crashes in a sound world. -/
theorem applySetup_eq (s : Setup) (sound : w.Sound) :
    applySetup s w = .ok (s.apply w).value := by
  cases s with
  | startMoney ps amount =>
    exact congrArg (Attempt.done <$> ·)
      (onEveryone_eq (g := Realm.onDungeon (·.addGold amount)) (fun _ => rfl) ps w)
  | computerPlayer ps model =>
    exact congrArg (Attempt.done <$> ·) (onEveryone_eq (fun _ => rfl) ps w)
  | computerGlobals ps values =>
    exact congrArg (Attempt.done <$> ·) (onEveryone_eq (fun _ => rfl) ps w)
  | computerPlan sort ps name values =>
    have most : ps.everyone.length ≤ 5 := length_everyone_le ps
    have counted : 0 + 19 * ps.everyone.length < counterEnd := by
      show _ < 18446744073709551616
      omega
    have walk : alterPlans sort name values (players playerCount ps) 0 w =
        .ok (w.alterPlans sort name values ps.everyone 0) := by
      rw [players_eq]
      exact alterPlans_eq sort name values ps.everyone 0 sound counted
    rw [Setup.apply_computerPlan]
    show alterPlans sort name values (players playerCount ps) 0 w >>= _ = _
    rw [walk, ok_bind]
    generalize World.alterPlans sort name values ps.everyone 0 w = altered
    cases altered
    simp only
    split <;> rfl
  | music track => rfl
  | swapCreature slot kind => rfl

/-! ## Turns -/

def advanceWorld (w : World) : Checked World := do
  let turn ← counter (w.turn + 1)
  let w := { w with turn }
  let w ← if w.income = 0 then pure w
    else do
      let keepers ← firstPlayers heroes.val
      pure (w.onEachDungeon keepers (·.addGold w.income))
  return (activateAll (w.schedule.filter fun a => a.turn == w.turn) w).value

theorem advanceWorld_eq (turns : w.turn + 1 < counterEnd) :
    advanceWorld w = .ok w.advance.value := by
  unfold advanceWorld World.advance
  rw [counter_eq turns, ok_bind]
  simp only
  split <;> rfl

end Machine

end DungeonScript
