import DungeonScript.Proofs.Game.Runs

/-!
Verdicts. Only a tick gives a verdict. What a level load reads and what a turn of the world
brings leaves alone who has won and who has lost, who plays at this machine and whether the
game is played over a network (`loadLevel_tally`, `advance_tally`). A tick asks whether the
level is decided before it does anything else, so that a verdict is final from the next tick
on (`after_tally`).

The tick does not ask again between its two verdicts. If a condition that wins the level and
one that loses it are both met on the tick that decides it, this machine's player is put down
as winner and as loser. `won_and_lost_iff` says that this is the only way it can happen.
-/

namespace DungeonScript

/-! ## What decides a level -/

/-- Who has won and lost, who plays at this machine, and whether verdicts are given at all. -/
structure Tally where
  won : List Nat
  lost : List Nat
  myPlayer : Nat
  network : Bool

namespace World

def tally (w : World) : Tally := ⟨w.won, w.lost, w.myPlayer, w.network⟩

theorem tally_of_frame {w w' : World} (same : w'.frame = w.frame) :
    w'.tally = w.tally := by
  have won : w'.won = w.won := congrArg Frame.won same
  have lost : w'.lost = w.lost := congrArg Frame.lost same
  have myPlayer : w'.myPlayer = w.myPlayer := congrArg Frame.myPlayer same
  have network : w'.network = w.network := congrArg Frame.network same
  unfold tally
  rw [won, lost, myPlayer, network]

theorem decided_of_tally {w w' : World} (same : w'.tally = w.tally) :
    w'.decided = w.decided := by
  have won : w'.won = w.won := congrArg Tally.won same
  have lost : w'.lost = w.lost := congrArg Tally.lost same
  have myPlayer : w'.myPlayer = w.myPlayer := congrArg Tally.myPlayer same
  unfold decided
  rw [won, lost, myPlayer]

/-- This machine's player is among the winners and among the losers. -/
def WonAndLost (w : World) : Prop := ∀ v, w.myPlayer ∈ w.judged v

theorem wonAndLost_of_tally {w w' : World} (same : w'.tally = w.tally) :
    w'.WonAndLost ↔ w.WonAndLost := by
  have myPlayer : w'.myPlayer = w.myPlayer := congrArg Tally.myPlayer same
  have judged : ∀ v, w'.judged v = w.judged v := by
    intro v
    cases v with
    | win => exact congrArg Tally.won same
    | lose => exact congrArg Tally.lost same
  unfold WonAndLost
  simp only [myPlayer, judged]

theorem not_mem_judged_of_undecided {w : World} (undecided : w.decided = false) (v : Verdict) :
    w.myPlayer ∉ w.judged v := by
  unfold decided at undecided
  rw [Bool.or_eq_false_iff] at undecided
  cases v with
  | win => simpa [judged] using undecided.1
  | lose => simpa [judged] using undecided.2

theorem advance_tally (w : World) : w.advance.value.tally = w.tally :=
  advance_keeps (k := tally) (fun _ _ _ _ => rfl) (fun _ _ _ _ _ => rfl) w

theorem myPlayer_pronounce (w : World) (v : Verdict) (player : Nat) :
    (w.pronounce v player).myPlayer = w.myPlayer :=
  pronounce_keeps (k := myPlayer) (fun _ _ _ => rfl) w v player

end World

namespace Game

/-! ## Loading -/

/-- What is decided by the frame of a world, and by nothing that a setup order changes, is as it
    was after a level load. -/
theorem loadLevel_keeps {α : Type} {f : World → α}
    (frame : ∀ {w w' : World}, w'.frame = w.frame → f w' = f w)
    (setup : ∀ (w : World) realms rules swaps, f { w with realms, rules, swaps } = f w)
    (text : String) (g : Game) : f (g.loadLevel text).value.world = f g.world := by
  have command {c : Command} {g g' : Game} (done : Registered g c g') :
      f g'.world = f g.world := by
    cases done with
    | effectDone _ => exact frame (Effect.apply_frame _ _ _)
    | spawnDone _ => exact frame (World.spawn_frame _ _ _)
    | tunnellerDone _ => exact frame (World.sendOut_frame _ _ _)
    | setUp applied =>
      obtain ⟨realms, rules, swaps, rfl⟩ := Setup.apply_elsewhere applied
      exact setup _ _ _ _
    | _ => rfl
  have keep : CommandsKeep fun w w' => f w' = f w :=
    ⟨fun _ => rfl, fun first later => later.trans first, command⟩
  exact keep.loadLevel (fun w => frame (World.onEachDungeon_frame _ _ w)) text g

theorem loadLevel_tally (text : String) (g : Game) :
    (g.loadLevel text).value.world.tally = g.world.tally :=
  loadLevel_keeps World.tally_of_frame (fun _ _ _ _ => rfl) text g

/-! ## Runs -/

/-- One step of a run. -/
inductive Move where
  | loadLevel (text : String)
  | advance
  | tick

def play (o : Options) (g : Game) : Move → Game
  | .loadLevel text => (g.loadLevel text).value
  | .advance => g.advance.value
  | .tick => (g.tick o).value

def after (o : Options) (g : Game) (moves : List Move) : Game := moves.foldl (play o) g

/-- A condition that wins the level and one that loses it are met together, on a tick that
    finds the level undecided. -/
structure Clash (g : Game) : Prop where
  undecided : g.world.decided = false
  alone : g.world.network = false
  met : ∀ v, ∃ id ∈ g.script.claims v,
    Script.conditionMet (swept g.world g.script.conditions) id = true

/-- Some tick of the run finds such conditions. -/
def ClashIn (o : Options) (g : Game) (moves : List Move) : Prop :=
  ∃ earlier later, moves = earlier ++ .tick :: later ∧ (g.after o earlier).Clash

variable {o : Options}

theorem isOver_eq_decided (ends : o.runAfterVictory = false) (g : Game) :
    g.isOver o = g.world.decided := by
  unfold isOver
  rw [ends]
  exact Bool.and_true _

/-- Only a tick that finds the level undecided changes the tally. -/
theorem play_tally (ends : o.runAfterVictory = false) {g : Game} {m : Move}
    (settled : m = .tick → g.world.decided = true) :
    (g.play o m).world.tally = g.world.tally := by
  cases m with
  | loadLevel text => exact loadLevel_tally text g
  | advance => exact g.world.advance_tally
  | tick =>
    have ended : g.isOver o = true := (isOver_eq_decided ends g).trans (settled rfl)
    show (g.tick o).value.world.tally = _
    rw [tick_of_over ended]

/-- A verdict is final. -/
theorem after_tally (ends : o.runAfterVictory = false) (moves : List Move) {g : Game}
    (decided : g.world.decided = true) :
    (g.after o moves).world.tally = g.world.tally := by
  induction moves generalizing g with
  | nil => rfl
  | cons m rest ih =>
    have step := play_tally ends (m := m) fun _ => decided
    exact (ih ((World.decided_of_tally step).trans decided)).trans step

/-- After a tick that finds the level undecided, the player has both verdicts exactly if the
    conditions clash on it. -/
theorem wonAndLost_tick (ends : o.runAfterVictory = false) {g : Game}
    (undecided : g.world.decided = false) :
    (g.tick o).value.world.WonAndLost ↔ g.Clash := by
  have processed : g.isOver o = false := (isOver_eq_decided ends g).trans undecided
  have myPlayer : (g.tick o).value.world.myPlayer = g.world.myPlayer := by
    rw [tick_of_processed processed, (g.script.turn_eq_visitTurn g.world).2]
    exact (giveVerdicts_keeps World.myPlayer_pronounce _ _).trans
      (congrArg Frame.myPlayer (g.script.visitTurn_frame g.world))
  have judged : ∀ v, g.world.myPlayer ∈ (g.tick o).value.world.judged v ↔
      g.world.network = false ∧ ∃ id ∈ g.script.claims v,
        Script.conditionMet (swept g.world g.script.conditions) id = true := by
    intro v
    rw [mem_judged_tick processed]
    simp only [World.not_mem_judged_of_undecided undecided v, false_or, true_and]
  unfold World.WonAndLost
  simp only [myPlayer, judged]
  constructor
  · intro both
    exact ⟨undecided, (both .win).1, fun v => (both v).2⟩
  · intro clash v
    exact ⟨clash.alone, clash.met v⟩

theorem wonAndLost_play (ends : o.runAfterVictory = false) (g : Game) (m : Move) :
    (g.play o m).world.WonAndLost ↔ g.world.WonAndLost ∨ m = .tick ∧ g.Clash := by
  by_cases settled : m = .tick → g.world.decided = true
  · rw [World.wonAndLost_of_tally (play_tally ends settled)]
    refine (or_iff_left fun h => ?_).symm
    have undecided := h.2.undecided
    rw [settled h.1] at undecided
    cases undecided
  · obtain ⟨rfl, undecided⟩ := Classical.not_imp.1 settled
    have undecided := eq_false_of_ne_true undecided
    have neither : ¬g.world.WonAndLost := fun both =>
      World.not_mem_judged_of_undecided undecided .win (both .win)
    simp only [neither, false_or, true_and]
    exact wonAndLost_tick ends undecided

theorem clashIn_cons {g : Game} {m : Move} {rest : List Move} :
    g.ClashIn o (m :: rest) ↔ m = .tick ∧ g.Clash ∨ (g.play o m).ClashIn o rest := by
  constructor
  · intro h
    obtain ⟨earlier, later, whole, clash⟩ := h
    cases earlier with
    | nil =>
      obtain ⟨rfl, rfl⟩ := List.cons.inj whole
      exact .inl ⟨rfl, clash⟩
    | cons m' earlier =>
      obtain ⟨rfl, rfl⟩ := List.cons.inj whole
      exact .inr ⟨earlier, later, rfl, clash⟩
  · intro h
    rcases h with ⟨rfl, clash⟩ | ⟨earlier, later, rfl, clash⟩
    · exact ⟨[], rest, rfl, clash⟩
    · exact ⟨m :: earlier, later, rfl, clash⟩

/-- **When a player wins and loses.** Let level loads, turns of the world and ticks follow
    each other in any way, where a tick does nothing once the level is decided. This machine's
    player comes to be put down as winner and as loser exactly if a condition that wins the
    level and one that loses it are met together, on the tick that decides it. Once the level
    is decided, nobody wins or loses any more. -/
theorem won_and_lost_iff (ends : o.runAfterVictory = false) (moves : List Move) (g : Game) :
    ((g.after o moves).world.WonAndLost ↔ g.world.WonAndLost ∨ g.ClashIn o moves) ∧
    ∀ earlier later, moves = earlier ++ later → (g.after o earlier).world.decided = true →
      (g.after o moves).world.tally = (g.after o earlier).world.tally := by
  constructor
  · induction moves generalizing g with
    | nil =>
      have never : ¬g.ClashIn o [] := by
        intro h
        obtain ⟨earlier, later, whole, _⟩ := h
        cases earlier <;> cases whole
      simp only [never, or_false]
      rfl
    | cons m rest ih =>
      have later : (g.after o (m :: rest)).world.WonAndLost ↔
          (g.play o m).world.WonAndLost ∨ (g.play o m).ClashIn o rest := ih (g.play o m)
      rw [later, wonAndLost_play ends, clashIn_cons, or_assoc]
  · intro earlier later whole decided
    subst whole
    have split : g.after o (earlier ++ later) = (g.after o earlier).after o later :=
      List.foldl_append
    rw [split]
    exact after_tally ends later decided

/-- A level that is won and lost by one condition, on its first tick. -/
theorem won_and_lost_at_once :
    let text := "IF(PLAYER0,GAME_TURN >= 0)\nWIN_GAME\nLOSE_GAME\nENDIF\n"
    (after .usual default [.loadLevel text, .tick]).world.WonAndLost := by
  intro text
  have clash : (after .usual default [.loadLevel text]).Clash :=
    { undecided := by decide +kernel
      alone := by decide +kernel
      met := by
        intro v
        cases v with
        | win => exact ⟨0, by decide +kernel, by decide +kernel⟩
        | lose => exact ⟨0, by decide +kernel, by decide +kernel⟩ }
  refine (won_and_lost_iff rfl [.loadLevel text, .tick] default).1.2 (.inr ?_)
  exact ⟨[.loadLevel text], [], rfl, clash⟩

end Game

end DungeonScript
