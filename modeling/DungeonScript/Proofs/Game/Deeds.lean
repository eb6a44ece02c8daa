import DungeonScript.Proofs.Game.Entries
import DungeonScript.Proofs.Game.Forgetting

/-!
What effects do to a game, in the order in which they are carried out. A line of a text carries out
an effect at once (`carriedOut`), unless it stores it; stored effects fire on ticks
(`firedEffects`).

Spawns, tunnellers, setup orders and verdicts change a world too, but there are parts of it that
none of these touches, and that effects alone move (`MovedByEffects`). Such a part is, after a load
or a tick, what the effects of the load or the tick have made of it one by one
(`MovedByEffects.load`, `MovedByEffects.tick`), and so after a run (`MovedByEffects.run`).
-/

namespace DungeonScript

namespace Game

/-! ## Effects of a line -/

/-- The effect that the line being read carries out at once, in the full pass: the line makes
    sense as an effect, and neither is it dropped nor is the effect put off. -/
def carries? (text : List Char) (g : Game) : Option Effect :=
  if g.progress.drops || g.progress.defers then none
  else
    match g.lineRead .full text with
    | .ok (some l) =>
      match (g.lineMeaning l).outcome with
      | .ok (.effect e) => some e
      | _ => none
    | _ => none

/-- The effects that these lines carry out at once, in order. -/
def carriedOut : List (Nat × List Char) → Game → List Effect
  | [], _ => []
  | line :: rest, g =>
    (({ g with progress := g.progress.atLine line.1 } : Game).carries? line.2).toList ++
      carriedOut rest (loadLine .full line g).value

theorem carries?_eq_some {text : List Char} {g : Game} {e : Effect} :
    g.carries? text = some e ↔ g.progress.drops = false ∧ g.progress.defers = false ∧
      ∃ l, g.ComesTo text l (.effect e) := by
  unfold carries?
  constructor
  · intro carries
    split at carries
    · cases carries
    · rename_i acts
      simp only [Bool.or_eq_true, not_or, Bool.not_eq_true] at acts
      split at carries
      · rename_i l read
        split at carries
        · rename_i meaning
          obtain rfl := Option.some.inj carries
          exact ⟨acts.1, acts.2, l, read, meaning⟩
        · cases carries
      · cases carries
  · rintro ⟨taken, acts, l, read, meaning⟩
    rw [taken, acts, read]
    simp only [Bool.or_self, meaning]
    rfl

theorem register_of_acting {g : Game} {e : Effect} (acts : g.progress.defers = false) :
    (g.register (.effect e)).value = .done { g with world := (e.apply g.script g.world).value } := by
  simp only [register, acts]
  rfl

theorem Heard.defers {g h : Game} (heard : Heard g h) :
    h.progress.defers = g.progress.defers := by
  obtain ⟨_, _, _, rfl⟩ := heard
  rfl

/-- A line that carries out an effect does nothing else to the world. -/
theorem LineEnd.world_of_carries {text : List Char} {g g' : Game} {f : Option Fault} {e : Effect}
    (h : LineEnd .full text g g' f) (carries : g.carries? text = some e) :
    ∃ script, g'.world = (e.apply script g.world).value := by
  obtain ⟨taken, acts, l, read, meaning⟩ := carries?_eq_some.1 carries
  obtain ⟨k, told, ends⟩ := h.of_meaning taken read meaning
  have heard := told.heard.trans (hear_heard (g.lineMeaning l).asides k)
  have done := register_of_acting (e := e) (heard.defers.trans acts)
  rcases ends with ⟨f, _, refused, _⟩ | ⟨_, registered⟩
  · rw [done] at refused
    cases refused
  · rw [done] at registered
    obtain rfl := Attempt.done_inj registered
    rw [heard.world]
    exact ⟨_, rfl⟩

/-- The stored effects that fire when the game ticks, in order. -/
def firedEffects (o : Options) (g : Game) : List Effect :=
  if g.isOver o then []
  else (g.script.effects.filter (·.fires (swept g.world g.script.conditions))).map (·.item)

/-! ## What effects alone move -/

/-- Of all that lines and ticks do to a world, effects alone move `k`, each in the way of `after`. -/
structure MovedByEffects {α : Type} (k : World → α) (after : α → Effect → α) : Prop where
  effect : ∀ (script : Script) (e : Effect) (w : World), k (e.apply script w).value = after (k w) e
  peopled : ∀ {w w' : World}, w'.unpeopled = w.unpeopled → k w' = k w
  setUp : ∀ {order : Setup} {w w' : World}, (order.apply w).value = .done w' → k w' = k w
  counted : ∀ (w : World) readings, k (w.countReadings readings) = k w
  verdict : ∀ (w : World) v player, k (w.pronounce v player) = k w

/-- What effects do to a lasting part of a player's realm is all that is done to it. -/
theorem movedByEffects_of_lasting {α : Type} {k : Realm → α} (lasting : Realm.Lasting k)
    {after : α → Effect → α} {p : Player}
    (effect : ∀ (script : Script) (e : Effect) (w : World),
      k ((e.apply script w).value.realm p) = after (k (w.realm p)) e) :
    MovedByEffects (fun w => k (w.realm p)) after where
  effect := effect
  peopled same := lasting.of_unpeopled same p
  setUp done := lasting.setup_apply done p
  counted _ _ := rfl
  verdict w v player :=
    World.pronounce_keeps (k := fun w => k (w.realm p)) (fun _ _ _ => rfl) w v player

namespace MovedByEffects

variable {α : Type} {k : World → α} {after : α → Effect → α}

/-- A line that carries out no effect does not move it. -/
theorem lineEnd_of_none (moved : MovedByEffects k after) {text : List Char} {g g' : Game}
    {f : Option Fault} (h : LineEnd .full text g g' f) (carries : g.carries? text = none) :
    k g'.world = k g.world := by
  rcases h.idle_or_registered with idle | ⟨l, c, j, read, taken, meaning, heard, registered⟩
  · rw [idle.world]
  · rw [← heard.world]
    cases register_registered registered with
    | effectDone acts =>
      -- inside a dropped block the command would be an `ENDIF`
      have alive : g.progress.drops = false := by
        refine eq_false_of_ne_true fun drops => ?_
        cases command_of_endif (taken drops) meaning
      have done := carries?_eq_some.2 ⟨alive, heard.defers.symm.trans acts, l, read, meaning⟩
      rw [carries] at done
      cases done
    | spawnDone _ => exact moved.peopled (World.spawn_unpeopled _ _ _)
    | tunnellerDone _ => exact moved.peopled (World.sendOut_unpeopled _ _ _)
    | setUp applied => exact moved.setUp applied
    | _ => rfl

/-- What a line does to it is the effect it carries out. -/
theorem loadLine (moved : MovedByEffects k after) (line : Nat × List Char) (g : Game) :
    k (Game.loadLine .full line g).value.world =
      (({ g with progress := g.progress.atLine line.1 } : Game).carries? line.2).toList.foldl after
        (k g.world) := by
  let g' := { g with progress := g.progress.atLine line.1 }
  have ends := scanLine_ends .full line.2 g'
  rw [(loadLine_heard .full line g).world]
  show _ = (g'.carries? line.2).toList.foldl after (k g'.world)
  cases carries : g'.carries? line.2 with
  | none => exact moved.lineEnd_of_none ends carries
  | some e =>
    obtain ⟨script, done⟩ := ends.world_of_carries carries
    rw [done, moved.effect]
    rfl

theorem loadLines (moved : MovedByEffects k after) (lines : List (Nat × List Char)) (g : Game) :
    k (Game.loadLines .full lines g).value.world = (g.carriedOut lines).foldl after (k g.world) := by
  induction lines generalizing g with
  | nil => rfl
  | cons line rest ih =>
    rw [carriedOut, List.foldl_append, ← moved.loadLine]
    exact ih _

theorem load (moved : MovedByEffects k after) (text : String) (g : Game) :
    k (g.load text).value.world =
      (carriedOut (scriptLines text) g.cleared).foldl after (k g.world.forNewLevel) := by
  -- what is summed up at the end of a load is about the record alone
  have same : (g.load text).value.world =
      (Game.loadLines .full (scriptLines text) g.cleared).value.world := (sumUp_heard _).world
  rw [same, moved.loadLines]
  rfl

theorem preload (moved : MovedByEffects k after) (text : String) (g : Game) :
    k (g.preload text).value.world = k g.world := by
  have line {text : List Char} {g g' : Game} {f : Option Fault} (h : LineEnd .preload text g g' f) :
      k g'.world = k g.world := by
    rcases h.idle_or_registered with idle | ⟨l, c, j, read, _, meaning, heard, registered⟩
    · rw [idle.world]
    · rw [← heard.world]
      have preloaded : l.verb.isPreloaded = true := (ScriptLine.leading?_of_read read).2.2
      rcases resolve_preloaded g.script g.world l preloaded c meaning with ⟨_, _, rfl⟩ | ⟨_, rfl⟩
      · cases register_registered registered with
        | setUp applied => exact moved.setUp applied
      · cases register_registered registered with
        | versioned => rfl
  refine loadLines_keeps (P := fun h => k h.world = k g.world) ?_ (scriptLines text) rfl
  intro here h same
  let h' := { h with progress := h.progress.atLine here.1 }
  have kept : k (scanLine .preload here.2 h').value.left.world = k h'.world :=
    line (scanLine_ends .preload here.2 h')
  rw [(loadLine_heard .preload here h).world]
  exact kept.trans same

theorem foldl_apply (moved : MovedByEffects k after) (script : Script) (effects : List Effect)
    (w : World) :
    k (effects.foldl (fun w e => (e.apply script w).value) w) = effects.foldl after (k w) := by
  induction effects generalizing w with
  | nil => rfl
  | cons e rest ih => rw [List.foldl_cons, ih, moved.effect, List.foldl_cons]

theorem tick (moved : MovedByEffects k after) (o : Options) (g : Game) :
    k (g.tick o).value.world = (g.firedEffects o).foldl after (k g.world) := by
  unfold firedEffects
  cases ended : g.isOver o with
  | true =>
    rw [tick_of_over ended]
    rfl
  | false =>
    rw [tick_of_processed ended]
    let conditions := swept g.world g.script.conditions
    let counted := g.world.countReadings (sweep g.world g.script.conditions).value.readings
    let spawned := (Gated.fireAll conditions (World.spawn g.script.parties) g.script.spawns
      counted).value
    let sent := (Gated.fireAll conditions (World.sendOut g.script.parties) g.script.tunnellers
      spawned).value
    let fires := (g.script.effects.filter (·.fires conditions)).map (·.item)
    let acted := (Gated.fireAll conditions (Effect.apply g.script) g.script.effects sent).value
    calc k ((g.script.afterSweep conditions).giveVerdicts acted).value
      _ = k acted := giveVerdicts_keeps moved.verdict _ _
      _ = fires.foldl after (k sent) := by
        rw [← moved.foldl_apply g.script, ← Gated.value_fireAll]
      _ = fires.foldl after (k spawned) := by
        rw [Gated.fireAll_keeps fun t w =>
          moved.peopled (World.sendOut_unpeopled g.script.parties t w)]
      _ = fires.foldl after (k counted) := by
        rw [Gated.fireAll_keeps fun s w =>
          moved.peopled (World.spawn_unpeopled g.script.parties s w)]
      _ = fires.foldl after (k g.world) := by rw [moved.counted]

end MovedByEffects

/-! ## Steps -/

/-- A step of a run. A level load is the one pass over its text after the other. -/
inductive Step where
  | preload (text : String)
  | load (text : String)
  | advance
  | tick

def step (o : Options) (g : Game) : Step → Game
  | .preload text => (g.preload text).value
  | .load text => (g.load text).value
  | .advance => g.advance.value
  | .tick => (g.tick o).value

def stepAll (o : Options) (g : Game) (steps : List Step) : Game := steps.foldl (step o) g

/-- The effects that are carried out in a step, in order. -/
def stepEffects (o : Options) (g : Game) : Step → List Effect
  | .preload _ => []
  | .load text => carriedOut (scriptLines text) g.cleared
  | .advance => []
  | .tick => g.firedEffects o

/-- What neither turns nor new levels touch is after a step what its effects have made of it. -/
theorem MovedByEffects.step {α : Type} {k : World → α} {after : α → Effect → α}
    (moved : MovedByEffects k after) (newLevel : ∀ w : World, k w.forNewLevel = k w)
    (turn : ∀ w : World, k w.advance.value = k w) (o : Options) (g : Game) (s : Step) :
    k (g.step o s).world = (g.stepEffects o s).foldl after (k g.world) := by
  cases s with
  | preload text => exact moved.preload text g
  | load text =>
    rw [← newLevel g.world]
    exact moved.load text g
  | advance => exact turn g.world
  | tick => exact moved.tick o g

/-! ## Runs -/

/-- An effect that was carried out, by its line or, if it was stored, on a tick. -/
structure Deed where
  effect : Effect
  fired : Bool
  deriving DecidableEq

def deedsOf (o : Options) (g : Game) : Move → List Deed
  | .loadLevel text =>
    (carriedOut (scriptLines text) (g.preload text).value.cleared).map fun e => ⟨e, false⟩
  | .advance => []
  | .tick => (g.firedEffects o).map fun e => ⟨e, true⟩

/-- What is done in the steps of a run, in order. -/
def deeds (o : Options) : Game → List Move → List Deed
  | _, [] => []
  | g, m :: rest => g.deedsOf o m ++ deeds o (g.play o m) rest

namespace MovedByEffects

variable {α : Type} {k : World → α} {after : α → Effect → α}

/-- What neither turns nor new levels touch is after a step what its effects have made of it. -/
theorem play (moved : MovedByEffects k after) (newLevel : ∀ w : World, k w.forNewLevel = k w)
    (turn : ∀ w : World, k w.advance.value = k w) (o : Options) (g : Game) (m : Move) :
    k (g.play o m).world = ((g.deedsOf o m).map (·.effect)).foldl after (k g.world) := by
  cases m with
  | loadLevel text =>
    simp only [deedsOf, List.map_map, Function.comp_def, List.map_id']
    rw [← moved.preload text g]
    exact moved.step newLevel turn o (g.preload text).value (.load text)
  | advance => exact turn g.world
  | tick =>
    simp only [deedsOf, List.map_map, Function.comp_def, List.map_id']
    exact moved.tick o g

theorem run (moved : MovedByEffects k after) (newLevel : ∀ w : World, k w.forNewLevel = k w)
    (turn : ∀ w : World, k w.advance.value = k w) (o : Options) (moves : List Move) (g : Game) :
    k (g.after o moves).world = ((g.deeds o moves).map (·.effect)).foldl after (k g.world) := by
  induction moves generalizing g with
  | nil => rfl
  | cons m rest ih =>
    rw [deeds, List.map_append, List.foldl_append, ← moved.play newLevel turn]
    exact ih (g.play o m)

end MovedByEffects

end Game

end DungeonScript
