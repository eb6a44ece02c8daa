import DungeonScript.Proofs.Game.Changes
import DungeonScript.Proofs.Game.WellFormed
import DungeonScript.Proofs.Machine.Command
import DungeonScript.Proofs.Machine.Text
import DungeonScript.Proofs.Machine.Turn

/-!
The machine plays a game. A level load crashes nowhere (`loadLevel_eq`): lines are read without a
crash whatever they say, and commands that act at once act on a sound world. A turn of the world
crashes only if the turns cannot be counted any more, and a tick only if the readings of dungeons
cannot (`tick_eq`). `after_eq` puts this together for any run from any settings.
-/

namespace DungeonScript

open Game

namespace Machine

variable {g : Game}

/-! ## Registering -/

/-- Stores a condition. Its number is the last of the list it is put on. -/
def addCondition (s : Script) (c : Condition) : Checked (Attempt (Nat × Script)) :=
  let stored := shelve .conditions s.conditions c
  match stored.fault with
  | some f => pure (.failed f (s.conditions.length, { s with conditions := stored.left }))
  | none => do
    let id ← minus stored.left.length 1
    return .done (id, { s with conditions := stored.left })

/-- Stores a party without members. Its number is the last of the list it is put on. -/
def createParty (s : Script) (name : String) : Checked (Attempt (Nat × Script)) :=
  let stored := shelve .parties s.parties ⟨name, []⟩
  match stored.fault with
  | some f => pure (.failed f (s.parties.length, { s with parties := stored.left }))
  | none => do
    let id ← minus stored.left.length 1
    return .done (id, { s with parties := stored.left })

theorem minus_of_shelved {α : Type} (xs : List α) (x : α) :
    minus (xs ++ [x]).length 1 = .ok xs.length := by
  rw [List.length_append, List.length_singleton, minus_eq (Nat.le_add_left ..), Nat.add_sub_cancel]

theorem addCondition_eq (s : Script) (c : Condition) : addCondition s c = .ok (s.addCondition c) := by
  unfold addCondition Script.addCondition
  rcases shelve_cases .conditions s.conditions c with ⟨_, stored⟩ | full
  · rw [stored]
    simp only [Attempt.fault_done, Attempt.left_done, minus_of_shelved]
    rfl
  · rw [full]
    rfl

theorem createParty_eq (s : Script) (name : String) :
    createParty s name = .ok (s.createParty name) := by
  unfold createParty Script.createParty
  rcases shelve_cases .parties s.parties ⟨name, []⟩ with ⟨_, stored⟩ | full
  · rw [stored]
    simp only [Attempt.fault_done, Attempt.left_done, minus_of_shelved]
    rfl
  · rw [full]
    rfl

/-- Registers a condition and opens its block. -/
def openCondition (players : Selector) (test : Test) (g : Game) : Checked (Attempt Game) := do
  let stored ← addCondition g.script ⟨g.progress.condition?, players, test, .unasked⟩
  let g := { g with script := stored.left.2 }
  match stored.fault with
  | some f => return .failed f g
  | none => return .done { g with progress := g.progress.opened (.registered stored.left.1) }

/-- Defines a party, unless its name is taken. -/
def defineParty (name : String) (g : Game) : Checked (Attempt Game) :=
  match g.script.findParty? name with
  | some _ => pure (.done (g.report (.partyAgain name)).value)
  | none => do
    let stored ← createParty g.script name
    return g.withScript (stored.map (·.2))

/-- Stores what a line asks for, or carries it out at once. -/
def storeOrAct (stored : Attempt Game) (done : Checked World) (g : Game) :
    Checked (Attempt Game) :=
  if g.progress.defers then pure stored
  else do
    let world ← done
    return .done { g with world }

def setUp (s : Setup) (g : Game) : Checked (Attempt Game) := do
  let applied ← applySetup s g.world
  return applied.map fun world => { g with world }

def register (c : Command) (g : Game) : Checked (Attempt Game) :=
  match c with
  | .condition players test => openCondition players test g
  | .createParty name => defineParty name g
  | .effect e =>
    storeOrAct (g.withScript (g.script.addEffect (g.progress.gate e)))
      (applyEffect g.script e g.world) g
  | .spawn s =>
    storeOrAct (g.withScript (g.script.addSpawn (g.progress.gate s)))
      (spawn g.script.parties s g.world) g
  | .tunneller t =>
    storeOrAct (g.withScript (g.script.addTunneller (g.progress.gate t)))
      (sendOut g.script.parties t g.world) g
  | .setup s => setUp s g
  | _ => pure (g.register c).value

theorem openCondition_eq (players : Selector) (test : Test) (g : Game) :
    openCondition players test g = .ok (g.openCondition players test) := by
  unfold openCondition Game.openCondition
  rw [addCondition_eq, ok_bind]
  dsimp only
  cases (g.script.addCondition ⟨g.progress.condition?, players, test, .unasked⟩).fault <;> rfl

theorem defineParty_eq (name : String) (g : Game) :
    defineParty name g = .ok (g.createParty name).value := by
  unfold defineParty Game.createParty
  cases g.script.findParty? name with
  | some id => rfl
  | none =>
    simp only [createParty_eq]
    rfl

theorem storeOrAct_eq {stored : Attempt Game} {done : Checked World} {w : Logged World}
    (acts : done = .ok w.value) :
    storeOrAct stored done g =
      .ok (if g.progress.defers then pure stored else g.withWorld w).value := by
  unfold storeOrAct
  split
  · rfl
  · rw [acts]
    rfl

/-- No command crashes in a sound world. -/
theorem register_eq (c : Command) (sound : g.world.Sound) :
    register c g = .ok (g.register c).value := by
  cases c with
  | condition players test => exact openCondition_eq players test g
  | createParty name => exact defineParty_eq name g
  | effect e => exact storeOrAct_eq (applyEffect_eq g.script e sound)
  | spawn s => exact storeOrAct_eq (spawn_eq g.script.parties s sound)
  | tunneller t => exact storeOrAct_eq (sendOut_eq g.script.parties t sound)
  | setup s =>
    show setUp s g = _
    unfold setUp
    rw [applySetup_eq s sound]
    rfl
  | _ => rfl

/-! ## Lines -/

/-- Finds out what command a line comes to, and registers it. -/
def carryOut (l : ScriptLine) (g : Game) : Checked (Attempt Game) := do
  let r ← resolve g.world g.script l
  let g := (hear r.asides g).value
  match r.outcome with
  | .error f => return .failed f (g.passOver l.verb)
  | .ok c =>
    let taken ← register c g
    match taken.fault with
    | some f => return .failed f (taken.left.passOver l.verb)
    | none => return .done taken.left

def takeLine (l : ScriptLine) (g : Game) : Checked (Attempt Game) :=
  let g := g.remarkedOn l
  if g.progress.drops && l.verb ≠ .endif then
    pure (.done ((g.passOver l.verb).report (.dropped l.usage.keyword)).value)
  else carryOut l g

/-- Reads the text of a line and takes it, if it is for this pass. -/
def scanLine (pass : Pass) (text : List Char) (g : Game) : Checked (Attempt Game) := do
  let r ← readLine g.progress.levelVersion pass text g.dice
  let g := (hear r.asides { g with dice := r.dice }).value
  match r.outcome with
  | .error f => return .failed f g
  | .ok none => return .done g
  | .ok (some l) => takeLine l g

/-- Reads a numbered line; a fault goes on record. -/
def loadLine (pass : Pass) (line : Nat × List Char) (g : Game) : Checked Game := do
  let taken ← scanLine pass line.2 { g with progress := g.progress.atLine line.1 }
  match taken.fault with
  | some f => return (taken.left.report (.fault f)).value
  | none => return taken.left

def loadLines (pass : Pass) : List (Nat × List Char) → Game → Checked Game
  | [], g => pure g
  | line :: rest, g => do loadLines pass rest (← loadLine pass line g)

theorem carryOut_eq (l : ScriptLine) (sound : g.world.Sound) :
    carryOut l g = .ok (g.carryOut l).value := by
  unfold carryOut
  rw [resolve_eq, ok_bind]
  unfold Game.carryOut
  simp only [Logged.value_bind]
  have heard : (hear (Command.resolve g.world g.script l).asides g).value.world = g.world :=
    (hear_heard _ g).world
  generalize (hear (Command.resolve g.world g.script l).asides g).value = h at heard ⊢
  cases (Command.resolve g.world g.script l).outcome with
  | error f => rfl
  | ok c =>
    simp only [Logged.value_bind]
    rw [register_eq c (heard ▸ sound), ok_bind]
    cases (h.register c).value.fault <;> rfl

theorem takeLine_eq (l : ScriptLine) (sound : g.world.Sound) :
    takeLine l g = .ok (g.takeLine l).value := by
  have remarked : (g.remarkedOn l).world = g.world := (remarkedOn_told l g).heard.world
  rw [takeLine_value]
  unfold takeLine
  simp only
  split
  · rfl
  · exact carryOut_eq l (remarked ▸ sound)

theorem scanLine_eq (pass : Pass) (text : List Char) (sound : g.world.Sound) :
    scanLine pass text g = .ok (Game.scanLine pass text g).value := by
  unfold scanLine
  rw [readLine_eq, ok_bind]
  unfold Game.scanLine
  simp only [Logged.value_bind]
  generalize ScriptLine.read g.progress.levelVersion pass text g.dice = r
  have heard : (hear r.asides { g with dice := r.dice }).value.world = g.world :=
    (hear_heard r.asides { g with dice := r.dice }).world
  generalize (hear r.asides { g with dice := r.dice }).value = h at heard ⊢
  cases r.outcome with
  | error f => rfl
  | ok l? =>
    cases l? with
    | none => rfl
    | some l => exact takeLine_eq l (heard ▸ sound)

theorem loadLine_eq (pass : Pass) (line : Nat × List Char) (sound : g.world.Sound) :
    loadLine pass line g = .ok (Game.loadLine pass line g).value := by
  let g' := { g with progress := g.progress.atLine line.1 }
  have scanned := scanLine_eq (g := g') pass line.2 sound
  unfold loadLine
  rw [scanned, loadLine_value, ok_bind]
  generalize (Game.scanLine pass line.2 g').value = ended
  obtain ⟨g', fault⟩ := ended
  cases fault <;> rfl

/-- Lines crash nowhere. -/
theorem loadLines_eq (pass : Pass) (lines : List (Nat × List Char)) {g : Game}
    (sound : g.world.Sound) :
    loadLines pass lines g = .ok (Game.loadLines pass lines g).value := by
  induction lines generalizing g with
  | nil => rfl
  | cons line rest ih =>
    have first : World.Changes g.world (Game.loadLine pass line g).value.world :=
      changes_keep.loadLines pass [line] g
    rw [loadLines, loadLine_eq pass line sound, ok_bind]
    exact ih (first.sound sound)

/-! ## Levels -/

def runPass (pass : Pass) (text : String) (g : Game) : Checked Game := do
  let g ← loadLines pass (← lines text) g
  return { g with progress := g.progress.outside }

/-- Carries out the commands that must be known before the level is set up. -/
def preload (text : String) (g : Game) : Checked Game :=
  runPass .preload text { g with progress := .start, script := g.script.clearQuickTexts }

def cleared (g : Game) : Checked Game := do
  let world ← forPlayers (onRealm fun r => pure (r.onDungeon Dungeon.forNewLevel))
    (List.range playerCount) g.world
  return { g with
    world := { world with flashing := (0, 0), rules := g.world.rules.forNewLevel }
    script := g.script.clear
    progress := g.progress.closeAll }

/-- Both passes: the text becomes the level of the game. -/
def loadLevel (text : String) (g : Game) : Checked Game := do
  let g ← preload text g
  let g ← runPass .full text (← cleared g)
  return g.sumUp.value

theorem runPass_eq (pass : Pass) {text : String} (fits : bytes text.toList + 1 < counterEnd)
    (sound : g.world.Sound) :
    runPass pass text g = .ok (Game.runPass pass text g).value := by
  unfold runPass
  rw [lines_eq fits, ok_bind, loadLines_eq pass (scriptLines text) sound]
  rfl

theorem cleared_eq (g : Game) : cleared g = .ok g.cleared := by
  have everyone : List.range playerCount = (Selector.all.everyone).map Fin.val := by decide
  have each := onEach_eq (f := fun r => pure (r.onDungeon Dungeon.forNewLevel)) (fun _ => rfl)
    Selector.all.everyone g.world
  unfold cleared
  rw [everyone, each]
  rfl

/-- A level load does not crash, whatever the text. -/
theorem loadLevel_eq {text : String} (fits : bytes text.toList + 1 < counterEnd)
    (sound : g.world.Sound) : loadLevel text g = .ok (g.loadLevel text).value := by
  let preloaded := (g.preload text).value
  have first : World.Changes g.world preloaded.world := changes_keep.preload text g
  have clears : World.Changes preloaded.world preloaded.cleared.world :=
    preloaded.world.forNewLevel_changes
  let g' := { g with progress := .start, script := g.script.clearQuickTexts }
  have preloads : preload text g = .ok preloaded := runPass_eq (g := g') .preload fits sound
  unfold loadLevel
  rw [preloads, ok_bind, cleared_eq, ok_bind,
    runPass_eq .full fits (clears.sound (first.sound sound))]
  rfl

/-! ## Turns -/

def advance (g : Game) : Checked Game := do
  let world ← advanceWorld g.world
  return { g with world }

/-- The script has its turn, unless the game is over. -/
def tick (o : Options) (g : Game) : Checked Game :=
  if g.isOver o then pure g
  else do
    let (script, world) ← turn g.script g.world
    return { g with script, world }

theorem advance_eq (turns : g.world.turn + 1 < counterEnd) : advance g = .ok g.advance.value := by
  unfold advance
  rw [advanceWorld_eq turns]
  rfl

/-- A tick crashes only if its readings cannot be counted. -/
theorem tick_eq (o : Options) (readable : Readable g.world) (fits : g.world.readings < counterEnd) :
    tick o g = counting (g.tick o).value.world.readings (g.tick o).value := by
  unfold tick Game.tick
  split
  · exact (counting_eq fits _).symm
  · rw [turn_eq g.script readable fits]
    exact counting_map _ _ fun r : Script × World => { g with script := r.1, world := r.2 }

end Machine

end DungeonScript
