import DungeonScript.Proofs.Game.Preload
import DungeonScript.Proofs.Game.QuickTexts
import DungeonScript.Proofs.World.Frame

/-!
Forgetting. A level load starts from nothing: what it leaves behind does not depend on the
script that was loaded before, on how far its reading had come, or on the part of the world
that a level finds cleared (`Passing`). Two games that differ in nothing else are the same
game after any level load (`loadLevel_forgets`).

The preload pass runs while the old script and the old world are still there. Its commands
look at the names of the world alone and change only the progress and the swaps, so the pass
can be carried out under any other script and any other passing part with the same result
(`loadLines_overlaid`). The full pass finds both cleared.
-/

namespace DungeonScript

/-! ## What a level finds cleared -/

/-- The part of a player's dungeon that a level finds cleared. -/
structure PassingDungeon where
  timers : Vector TurnTimer timerCount
  flags : Vector Int flagCount
  maxLevel : Vector Int creatureTypes

/-- The part of a world that a level finds cleared. -/
structure Passing where
  flashing : Int × Int
  bonusTime : Int
  countdownVisible : Bool
  deadReturnToPool : Bool
  dungeons : Player → PassingDungeon

def Dungeon.withPassing (x : PassingDungeon) (d : Dungeon) : Dungeon :=
  { d with timers := x.timers, flags := x.flags, maxLevel := x.maxLevel }

namespace World

def withPassing (x : Passing) (w : World) : World := { w with
  flashing := x.flashing
  rules := { w.rules with
    bonusTime := x.bonusTime
    countdownVisible := x.countdownVisible
    deadReturnToPool := x.deadReturnToPool }
  realms := .ofFn fun p : Player => (w.realm p).onDungeon (Dungeon.withPassing (x.dungeons p)) }

theorem realm_withPassing (x : Passing) (w : World) (p : Player) :
    (w.withPassing x).realm p = (w.realm p).onDungeon (Dungeon.withPassing (x.dungeons p)) := by
  simp only [realm, withPassing, Vector.getElem_ofFn]

theorem forNewLevel_eq (w : World) : w.forNewLevel = { w with
    flashing := (0, 0)
    rules := w.rules.forNewLevel
    realms := w.forNewLevel.realms } := by
  unfold forNewLevel onEachDungeon
  rw [onEach_eq]

theorem forNewLevel_withPassing (x : Passing) (w : World) :
    (w.withPassing x).forNewLevel = w.forNewLevel := by
  have realms : (w.withPassing x).forNewLevel.realms = w.forNewLevel.realms := by
    apply Vector.ext
    intro i hi
    show (w.withPassing x).forNewLevel.realm ⟨i, hi⟩ = w.forNewLevel.realm ⟨i, hi⟩
    rw [realm_forNewLevel, realm_forNewLevel, realm_withPassing]
    rfl
  rw [forNewLevel_eq, forNewLevel_eq w, realms]
  rfl

end World

namespace Game

/-! ## The preload pass under another script -/

/-- The game with another script, and the passing part of its world another one. -/
def overlaid (s : Script) (x : Passing) (g : Game) : Game :=
  { g with script := s, world := g.world.withPassing x }

section Overlaid

variable (s : Script) (x : Passing) (g : Game)

theorem hear_overlaid (asides : List Aside) (plain : ∀ a ∈ asides, a.Plain) :
    (hear asides (g.overlaid s x)).value = (hear asides g).value.overlaid s x := by
  rw [hear_of_plain _ _ plain, hear_of_plain _ _ plain]
  rfl

theorem passOver_overlaid (v : Verb) :
    (g.overlaid s x).passOver v = (g.passOver v).overlaid s x := by
  unfold passOver
  split <;> rfl

/-- The commands of the preload pass look at the names of the world alone. -/
theorem resolve_overlaid {l : ScriptLine} (preloaded : l.verb.isPreloaded = true) :
    Command.resolve (g.overlaid s x).world (g.overlaid s x).script l =
      Command.resolve g.world g.script l := by
  cases verb : l.verb with
  | swapCreature =>
    simp only [Command.resolve, verb]
    rfl
  | levelVersion => simp only [Command.resolve, verb]
  | _ =>
    rw [verb] at preloaded
    cases preloaded

/-- What comes of a line of the preload pass. -/
theorem resolve_preloaded (w : World) (l : ScriptLine) (preloaded : l.verb.isPreloaded = true) :
    (Command.resolve w s l).Gives fun c =>
      (∃ slot kind, c = .setup (.swapCreature slot kind)) ∨ ∃ version, c = .levelVersion version := by
  cases verb : l.verb with
  | swapCreature => simp [Command.resolve, verb]
  | levelVersion => simp [Command.resolve, verb]
  | _ =>
    rw [verb] at preloaded
    cases preloaded

theorem register_overlaid {c : Command} (preloaded : (∃ slot kind, c = .setup (.swapCreature slot kind)) ∨
      ∃ version, c = .levelVersion version) :
    ((g.overlaid s x).register c).value = (g.register c).value.map (overlaid s x) := by
  rcases preloaded with ⟨slot, kind, rfl⟩ | ⟨version, rfl⟩
  · simp only [register, setUp, Setup.apply, Logged.value_bind]
    split <;> rfl
  · rfl

theorem carryOut_overlaid {l : ScriptLine} (preloaded : l.verb.isPreloaded = true) :
    ((g.overlaid s x).carryOut l).value = (g.carryOut l).value.map (overlaid s x) := by
  have silent : l.verb.setsText = false := by
    cases verb : l.verb <;> simp_all [Verb.isPreloaded, Verb.setsText]
  have plain := (Command.resolve_plain g.world g.script l silent).2
  unfold carryOut
  simp only [Logged.value_bind]
  rw [resolve_overlaid s x g preloaded, hear_overlaid s x g _ plain]
  cases meaning : (Command.resolve g.world g.script l).outcome with
  | error f =>
    simp only [Logged.value_pure]
    rw [passOver_overlaid]
    rfl
  | ok c =>
    have command := resolve_preloaded g.script g.world l preloaded c meaning
    simp only [Logged.value_bind]
    rw [register_overlaid s x _ command]
    simp only [Attempt.fault_map, Attempt.left_map]
    cases ((hear (Command.resolve g.world g.script l).asides g).value.register c).value.fault with
    | some f =>
      simp only [Logged.value_pure]
      rw [passOver_overlaid]
      rfl
    | none => rfl

theorem remarkedOn_overlaid (l : ScriptLine) :
    (g.overlaid s x).remarkedOn l = (g.remarkedOn l).overlaid s x := by
  show (if l.verb.isSetupOnly && g.progress.inBlock then _ else _) = _
  unfold remarkedOn
  split <;> rfl

theorem takeLine_overlaid {l : ScriptLine} (preloaded : l.verb.isPreloaded = true) :
    ((g.overlaid s x).takeLine l).value = (g.takeLine l).value.map (overlaid s x) := by
  rw [takeLine_value, takeLine_value, remarkedOn_overlaid]
  show (if (g.remarkedOn l).progress.drops && l.verb ≠ .endif then _ else _) = _
  split
  · rw [passOver_overlaid]
    rfl
  · exact carryOut_overlaid s x _ preloaded

theorem scanLine_overlaid (text : List Char) :
    (scanLine .preload text (g.overlaid s x)).value =
      (scanLine .preload text g).value.map (overlaid s x) := by
  rw [scanLine_value, scanLine_value]
  -- both read the same, with the same dice
  show afterReading (overlaid s x (noted _ { g with dice := _ })) (g.lineRead .preload text) =
    (afterReading (noted _ { g with dice := _ }) (g.lineRead .preload text)).map (overlaid s x)
  cases read : g.lineRead .preload text with
  | error f => rfl
  | ok o =>
    cases o with
    | none => rfl
    | some l => exact takeLine_overlaid s x _ (ScriptLine.leading?_of_read read).2.2

theorem loadLine_overlaid (line : Nat × List Char) :
    (loadLine .preload line (g.overlaid s x)).value =
      (loadLine .preload line g).value.overlaid s x := by
  have scanned : (scanLine .preload line.2 { g.overlaid s x with
      progress := (g.overlaid s x).progress.atLine line.1 }).value = _ :=
    scanLine_overlaid s x { g with progress := g.progress.atLine line.1 } line.2
  rw [loadLine_value, loadLine_value, scanned]
  generalize (scanLine .preload line.2 { g with progress := g.progress.atLine line.1 }).value = r
  obtain ⟨g', fault⟩ := r
  cases fault <;> rfl

theorem loadLines_overlaid (lines : List (Nat × List Char)) :
    (loadLines .preload lines (g.overlaid s x)).value =
      (loadLines .preload lines g).value.overlaid s x := by
  induction lines generalizing g with
  | nil => rfl
  | cons line rest ih =>
    show (loadLines .preload rest (loadLine .preload line (g.overlaid s x)).value).value = _
    rw [loadLine_overlaid, ih]
    rfl

end Overlaid

/-- **A level load forgets.** Two games with the same dice whose worlds differ in their
    passing parts at most are the same game after the same level is loaded, whatever script
    was loaded before and however far its reading had come. -/
theorem loadLevel_forgets (text : String) (g : Game) (s : Script) (x : Passing) (p : Progress) :
    (loadLevel text { g with script := s, world := g.world.withPassing x, progress := p }).value =
      (loadLevel text g).value := by
  have preloaded : (preload text
        { g with script := s, world := g.world.withPassing x, progress := p }).value =
      (preload text g).value.overlaid s.clearQuickTexts x :=
    congrArg (fun h : Game => { h with progress := h.progress.outside })
      (loadLines_overlaid s.clearQuickTexts x
        { g with progress := .start, script := g.script.clearQuickTexts } (scriptLines text))
  have quickTexts : (preload text g).value.script.quickTexts = g.script.clearQuickTexts.quickTexts :=
    loadLines_preload_quickTexts _ _
  have cleared : ((preload text g).value.overlaid s.clearQuickTexts x).cleared =
      (preload text g).value.cleared := by
    unfold Game.cleared overlaid Script.clear
    rw [World.forNewLevel_withPassing, quickTexts]
    rfl
  show (load text _).value = (load text _).value
  unfold load
  rw [preloaded, cleared]

end Game

end DungeonScript
