import DungeonScript.World.Groups
import DungeonScript.Script

/-!
Changing the world: what each effect and each setup order does. An effect on several
players is carried out on one after the other, the heroes last. Numbers past the end
of a table wrap around; numbers a field cannot hold become the nearest one it can.
-/

namespace DungeonScript

namespace World

def give (stock : Stock) (item : Nat) (first second : Int) (p : Player) (w : World) :
    Logged World :=
  match stock with
  | .room => pure (w.onRealm p (Realm.giveRoom item first second))
  | .trap => pure (w.onRealm p (Realm.giveTrap item first second))
  | .door => pure (w.onRealm p (Realm.giveDoor item first second))
  | .creature =>
    if item < creatureTypes then pure (w.onRealm p (Realm.giveCreature item first second))
    else do
      Logged.note (.creatureUnavailable item)
      return w
  | .magic =>
    if item < powerTypes then pure (w.onRealm p (Realm.givePower item first second))
    else do
      Logged.note (.powerUnavailable item)
      return w

/-- The world with a statistic of a creature kind set. -/
def setStat (w : World) (kind : Nat) (stat : Stat) (value : Int) : World :=
  { w with stats := updateAt w.stats (slotOf creatureTypes_pos kind) fun s =>
      match stat with
      | .health => { s with health := clamp (-32768) 32767 value }
      | .strength => { s with strength := clamp 0 255 value }
      | .armour => { s with armour := clamp 0 255 value }
      | .fear => { s with fear := clamp 0 255 value } }

/-- The world with more creatures of a kind to arrive. -/
def addToPool (w : World) (kind : Nat) (amount : Int) : World :=
  { w with pool := updateAt w.pool (slotOf creatureTypes_pos kind) fun n => saturate (n + amount) }

/-- The world with player `a` allied to player `b`, if both slots exist. -/
def allyTo (a b : Nat) (w : World) : World :=
  match playerAt? a, playerAt? b with
  | some p, some q => w.onDungeon p fun d => { d with allied := updateAt d.allied q fun _ => true }
  | _, _ => w

def spanAround (centre size : Int) : Int × Int :=
  (saturate (centre - size / 2), saturate (centre + size / 2))

/-- The world with a part of the map shown to a player. -/
def reveal (x y width height : Int) (p : Player) (w : World) : World :=
  { w with revealed := w.revealed.push ⟨p, spanAround x width, spanAround y height⟩ }

/-- Shows a part of the map to one player, with a note. -/
def revealNoted (x y width height : Int) (p : Player) (w : World) : Logged World := do
  Logged.note (.revealing x y p)
  return w.reveal x y width height p

/-- Kills creatures of one player, with a note. -/
def killNoted (kind : Nat) (order : KillOrder) (count : Int) (p : Player) (w : World) :
    Logged World := do
  let (w, killed) := w.killCreatures p kind order count
  Logged.note (.killed killed kind p)
  return w

/-- Carries out a change on one player after the other. -/
def forPlayers (f : Player → World → Logged World) : List Player → World → Logged World
  | [], w => pure w
  | p :: rest, w => do
    let w ← f p w
    forPlayers f rest w

/-- The coordinates of a place that can be shown. The corner of the map is none. -/
def visibleCoords? (w : World) (place : Place) : Option (Int × Int) :=
  (w.coordsOf? place).filter (· != (0, 0))

end World

namespace Effect

/-- Carries out an effect. Quick texts are read from the store. -/
def apply (script : Script) (e : Effect) (w : World) : Logged World :=
  match e with
  | .setHate ps enemy hate =>
    pure <| w.onEachDungeon ps.everyone fun d =>
      { d with hates := updateAt d.hates (slotOfInt playerCount_pos enemy) fun _ => hate }
  | .setGenerateSpeed turns =>
    pure { w with rules := { w.rules with generateSpeed := (clamp 0 65535 turns).toNat } }
  | .available ps stock item first second =>
    World.forPlayers (World.give stock item first second) ps.everyone w
  | .research ps kind item amount =>
    pure <| w.onEach ps.everyone (Realm.setResearch kind item amount)
  | .researchOrder ps kind item amount =>
    pure <| w.onEach ps.everyone (Realm.orderResearch kind item amount)
  | .setTimer ps timer =>
    pure <| w.onEachDungeon ps.everyone fun d =>
      { d with timers := updateAt d.timers (slotOf timerCount_pos timer) fun _ => ⟨true, w.turn⟩ }
  | .setFlag ps flag value =>
    pure <| w.onEachDungeon ps.everyone fun d =>
      { d with flags := updateAt d.flags (slotOf flagCount_pos flag) fun _ => value }
  | .maxCreatures ps count =>
    pure <| w.onEachDungeon ps.everyone fun d => { d with maxCreatures := count }
  | .displayObjective message place _ => pure <| w.display .all (.objective message place)
  | .displayInformation message place _ => pure <| w.display .all (.information message place)
  | .quickObjective index place _ =>
    pure <| w.display .all (.quickObjective (script.quickText index) place)
  | .quickInformation index place _ =>
    pure <| w.display .all (.quickInformation index (script.quickText index) place)
  | .addToPool kind amount => pure <| w.addToPool kind amount
  | .resetActionPoint number => pure <| w.resetPoint number
  | .flashButton button duration => pure { w with flashing := (button, duration) }
  | .setMaxLevel ps kind level =>
    pure <| w.onEachDungeon ps.everyone fun d =>
      { d with maxLevel := updateAt d.maxLevel (slotOf creatureTypes_pos kind) fun _ => level }
  | .setStat kind stat value => pure <| w.setStat kind stat value
  | .ally a b => pure <| (w.allyTo a b).allyTo b a
  | .deadReturnToPool on => pure { w with rules := { w.rules with deadReturnToPool := on } }
  | .bonusTime turns =>
    pure { w with rules := { w.rules with bonusTime := turns, countdownVisible := 0 < turns } }
  | .playMessage ps .speech message => pure <| w.display ps (.speech message)
  | .playMessage ps .sound message => pure <| w.display ps (.sound message)
  | .addGold ps amount => pure <| w.onEachDungeon ps.everyone (·.addGold amount)
  | .setTendency ps tendency value =>
    pure <| w.onEach ps.everyone (Realm.setTendency tendency value)
  | .revealRect ps x y width height =>
    World.forPlayers (World.revealNoted x y width height) ps.everyone w
  | .revealPlace ps place range =>
    match w.visibleCoords? place with
    | some c =>
      World.forPlayers (fun p w => pure (w.reveal c.1 c.2 range range p)) ps.everyone w
    | none => do
      Logged.note (.noCoordinates place)
      return w
  | .kill ps kind order count => World.forPlayers (World.killNoted kind order count) ps.everyone w

end Effect

namespace World

/-- Alters the plans of one name, one player after the other, and counts them; `count`
    have been counted before. -/
def alterPlans (sort : PlanSort) (name : String) (values : List Int) :
    List Player → Nat → World → Nat × World
  | [], count, w => (count, w)
  | p :: rest, count, w =>
    alterPlans sort name values rest (count + (w.realm p).matchingPlans sort name)
      (w.onRealm p (Realm.setPlan sort name values))

end World

namespace Setup

/-- Carries out a setup order. Whether there is a plan of a name is known only once all
    players have been gone through. -/
def apply (s : Setup) (w : World) : Logged (Attempt World) :=
  match s with
  | .startMoney ps amount => pure <| .done <| w.onEachDungeon ps.everyone (·.addGold amount)
  | .computerPlayer ps model => pure <| .done <| w.onEach ps.everyone (Realm.setComputer model)
  | .music track => pure <| .done { w with rules := { w.rules with musicTrack := track } }
  | .computerGlobals ps values => pure <| .done <| w.onEach ps.everyone (Realm.setGlobals values)
  | .computerPlan sort ps name values =>
    match w.alterPlans sort name values ps.everyone 0 with
    | (0, w) => pure <| .failed (.noPlan sort name) w
    | (count, w) => do
      Logged.note (.plansAltered count sort)
      return .done w
  | .swapCreature slot kind =>
    if kind < creatureTypes then pure <| .done { w with swaps := w.swaps.push (slot, kind) }
    else pure <| .failed (.swapFailed slot kind) w

end Setup

end DungeonScript
