import DungeonScript.Proofs.Machine.Game

/-!
Runs of the machine. Level loads, turns of the world and ticks follow each other in any way
(`Game.Move`). All through a run the world stays sound and the script well-formed, and the turn
and the readings of dungeons only grow, so that what bounds them at the end of the run bounds them
before (`Grows`). It follows that the machine's run comes to the run, unless the readings cannot be
counted (`after_eq`). For that they are too few in any run that is not of astronomical length
(`after_readings_le`), but nothing else keeps them few: the turn need not go on between ticks.
-/

namespace DungeonScript

open Game

/-! ## What only grows -/

/-- Turns and readings are no fewer. -/
structure World.Grows (w w' : World) : Prop where
  turn : w.turn ≤ w'.turn
  readings : w.readings ≤ w'.readings

namespace World

variable {w w' : World}

theorem Grows.refl (w : World) : w.Grows w := ⟨Nat.le_refl _, Nat.le_refl _⟩

theorem Grows.trans {a b c : World} (first : a.Grows b) (later : b.Grows c) : a.Grows c :=
  ⟨Nat.le_trans first.turn later.turn, Nat.le_trans first.readings later.readings⟩

theorem Changes.turn_eq (changes : Changes w w') : w'.turn = w.turn := by
  induction changes with
  | refl => rfl
  | next _ change ih =>
    refine Eq.trans ?_ ih
    cases change with
    | other same => exact congrArg Core.turn same
    | _ => rfl

theorem Changes.grows (changes : Changes w w') (readings : w.readings ≤ w'.readings) :
    w.Grows w' :=
  ⟨Nat.le_of_eq changes.turn_eq.symm, readings⟩

theorem readings_of_frame (same : w'.frame = w.frame) : w'.readings = w.readings :=
  congrArg Frame.readings same

theorem readings_advance (w : World) : w.advance.value.readings = w.readings :=
  advance_keeps (k := readings) (fun _ _ _ _ => rfl) (fun _ _ _ _ _ => rfl) w

end World

namespace Game

variable {g : Game}

theorem loadLevel_readings (text : String) (g : Game) :
    (g.loadLevel text).value.world.readings = g.world.readings :=
  loadLevel_keeps World.readings_of_frame (fun _ _ _ _ => rfl) text g

theorem tick_readings (o : Options) (g : Game) : (g.tick o).value.world.readings =
    g.world.readings + if g.isOver o then 0 else (sweep g.world g.script.conditions).value.readings := by
  unfold tick
  split
  · rfl
  · exact Machine.readings_turn g.script g.world

/-- What one step comes to in a sound world. -/
theorem play_grows (o : Options) (g : Game) (m : Move) : g.world.Grows (g.play o m).world := by
  cases m with
  | loadLevel text =>
    exact (loadLevel_changes text g).grows (Nat.le_of_eq (loadLevel_readings text g).symm)
  | advance =>
    exact ⟨Nat.le_trans (Nat.le_succ _) (Nat.le_of_eq g.world.turn_advance.symm),
      Nat.le_of_eq g.world.readings_advance.symm⟩
  | tick =>
    refine (tick_changes o g).grows ?_
    rw [tick_readings]
    exact Nat.le_add_right ..

theorem after_grows (o : Options) (g : Game) (moves : List Move) :
    g.world.Grows (g.after o moves).world := by
  induction moves generalizing g with
  | nil => exact .refl _
  | cons m rest ih => exact (play_grows o g m).trans (ih _)

theorem play_sound (o : Options) (m : Move) (sound : g.world.Sound) :
    (g.play o m).world.Sound := by
  cases m with
  | loadLevel text => exact (loadLevel_changes text g).sound sound
  | advance => exact sound.advance
  | tick => exact (tick_changes o g).sound sound

theorem play_wellFormed (o : Options) (m : Move) (wf : g.script.WellFormed) :
    (g.play o m).script.WellFormed := by
  cases m with
  | loadLevel text => exact load_wellFormed text (preload_wellFormed text wf)
  | advance => exact wf
  | tick => exact tick_wellFormed o wf

end Game

theorem Settings.readings_world (s : Settings) : s.world.value.readings = 0 :=
  s.world_keeps (k := World.readings) fun _ _ _ _ => rfl

/-! ## How many readings there are -/

theorem Selector.length_asked_le (s : Selector) : s.asked.length ≤ 4 := by
  have same := congrArg List.length (Machine.players_eq heroes.val s)
  rw [List.length_map] at same
  show (s.players heroes).length ≤ 4
  rw [← same, Machine.players, List.length_range']
  cases s with
  | one slot =>
    show min (slot + 1) 5 - min slot 5 ≤ 4
    omega
  | all => decide

theorem World.ask_le (w : World) (t : Test) (players : List Player) :
    (w.ask t players).2 ≤ players.length := by
  have one : readingsPerPlayer t ≤ 1 := by
    cases t with
    | measure what index comparison value => exact Nat.le_refl 1
    | entered number => exact Nat.zero_le 1
  induction players with
  | nil => exact Nat.le_refl 0
  | cons p rest ih =>
    rw [World.ask, List.length_cons]
    split
    · exact Nat.le_trans one (Nat.le_add_left ..)
    · simp only
      omega

theorem sweepAfter_le (w : World) : ∀ (rest before : List Condition) (n : Nat),
    (sweepAfter w before n rest).value.readings ≤ n + 4 * rest.length
  | [], _, _ => Nat.le_refl _
  | c :: rest, before, n => by
    have later := sweepAfter_le w rest (before ++ [(c.sweep w before rest).value.1])
      (n + (c.sweep w before rest).value.2)
    have own : (c.sweep w before rest).value.2 ≤ 4 := by
      rw [Condition.sweep_readings]
      split
      · exact Nat.le_trans (w.ask_le c.test _) c.players.length_asked_le
      · exact Nat.zero_le _
    rw [sweepAfter, Logged.value_bind, List.length_cons]
    show (sweepAfter w (before ++ [(c.sweep w before rest).value.1])
      (n + (c.sweep w before rest).value.2) rest).value.readings ≤ _
    omega

namespace Game

variable {g : Game}

/-- A step takes at most four readings for each of 48 conditions. -/
theorem play_readings_le (o : Options) (m : Move) (wf : g.script.WellFormed) :
    (g.play o m).world.readings ≤ g.world.readings + 192 := by
  cases m with
  | loadLevel text =>
    have kept := loadLevel_readings text g
    show (g.loadLevel text).value.world.readings ≤ _
    omega
  | advance =>
    have kept := g.world.readings_advance
    show g.world.advance.value.readings ≤ _
    omega
  | tick =>
    have swept := sweepAfter_le g.world g.script.conditions [] 0
    have fit : g.script.conditions.length ≤ 48 := wf.conditionsFit
    show (g.tick o).value.world.readings ≤ _
    rw [tick_readings]
    unfold sweep
    split <;> omega

theorem after_readings_le (o : Options) (moves : List Move) {g : Game} (wf : g.script.WellFormed) :
    (g.after o moves).world.readings ≤ g.world.readings + 192 * moves.length := by
  induction moves generalizing g with
  | nil => exact Nat.le_refl _
  | cons m rest ih =>
    have first := play_readings_le o m wf
    have later := ih (play_wellFormed o m wf)
    show ((g.play o m).after o rest).world.readings ≤ _
    rw [List.length_cons]
    omega

end Game

/-! ## The machine's run -/

namespace Machine

variable {g : Game}

def play (o : Options) (g : Game) : Move → Checked Game
  | .loadLevel text => loadLevel text g
  | .advance => advance g
  | .tick => tick o g

def after (o : Options) (g : Game) (moves : List Move) : Checked Game := moves.foldlM (play o) g

/-- A text that can be held in memory: nothing in memory takes up 2^63 bytes. -/
def Holdable (text : String) : Prop := bytes text.toList < 9223372036854775808

/-- A step crashes only if its readings cannot be counted. -/
theorem play_eq (o : Options) {m : Move} (holdable : ∀ text, m = .loadLevel text → Holdable text)
    (sound : g.world.Sound) (fits : g.world.readings < counterEnd)
    (turn : (g.play o m).world.turn < 9223372036854775808) :
    play o g m = counting (g.play o m).world.readings (g.play o m) := by
  have grows := play_grows o g m
  cases m with
  | loadLevel text =>
    have length : bytes text.toList < 9223372036854775808 := holdable text rfl
    have kept : (g.play o (.loadLevel text)).world.readings = _ := loadLevel_readings text g
    rw [kept, counting_eq fits]
    have short : bytes text.toList + 1 < 18446744073709551616 := by omega
    exact loadLevel_eq short sound
  | advance =>
    have kept : (g.play o .advance).world.readings = _ := g.world.readings_advance
    have turned : (g.play o .advance).world.turn = _ := g.world.turn_advance
    rw [kept, counting_eq fits]
    have turns : g.world.turn + 1 < 18446744073709551616 := by omega
    exact advance_eq turns
  | tick =>
    have readable : Readable g.world := ⟨sound, Nat.lt_of_le_of_lt grows.turn turn⟩
    exact tick_eq o readable fits

/-- A run crashes only if its readings cannot be counted. -/
theorem after_eq (o : Options) (moves : List Move) {g : Game}
    (holdable : ∀ text, .loadLevel text ∈ moves → Holdable text)
    (sound : g.world.Sound) (fits : g.world.readings < counterEnd)
    (turn : (g.after o moves).world.turn < 9223372036854775808) :
    after o g moves = counting (g.after o moves).world.readings (g.after o moves) := by
  induction moves generalizing g with
  | nil => exact (counting_eq fits g).symm
  | cons m rest ih =>
    -- what bounds the end of the run bounds what the step leaves
    have grows := after_grows o (g.play o m) rest
    have step := play_eq o (m := m) (fun text same => holdable text (same ▸ List.mem_cons_self)) sound
      fits (Nat.lt_of_le_of_lt grows.turn turn)
    show play o g m >>= (after o · rest) = _
    rw [step]
    exact counting_bind grows.readings fun fits =>
      ih (fun text later => holdable text (List.mem_cons_of_mem m later)) (play_sound o m sound) fits
        turn

end Machine

/-- **Scripts do not crash the game.** Take any settings, and let level loads of any texts, turns of
    the world and ticks of the script follow each other in any way. As long as the turn stays below
    2^63 and dungeons have been read fewer than 2^64 times, no index is out of bounds, no text is cut
    in a character, nothing is divided by 0 and no number is out of its range: the machine comes to
    what the run comes to. Otherwise its count of readings does not fit, and it crashes. A step takes
    at most 192 readings, so that a run needs more than 9 * 10^16 steps for this to happen. -/
theorem Game.run_never_crashes (s : Settings) (moves : List Move)
    (holdable : ∀ text, .loadLevel text ∈ moves → Machine.Holdable text)
    (turn : ((fresh s.options s.world.value).after s.options moves).world.turn <
      9223372036854775808) :
    let run := (fresh s.options s.world.value).after s.options moves
    (run.world.readings < 18446744073709551616 →
      Machine.after s.options (fresh s.options s.world.value) moves = .ok run) ∧
    (18446744073709551616 ≤ run.world.readings →
      Machine.after s.options (fresh s.options s.world.value) moves = .error .overflow) ∧
    run.world.readings ≤ 192 * moves.length := by
  intro run
  have none : (fresh s.options s.world.value).world.readings = 0 := s.readings_world
  have fits : (fresh s.options s.world.value).world.readings < Machine.counterEnd := by
    rw [none]
    decide
  have most := after_readings_le s.options moves (g := fresh s.options s.world.value)
    Script.empty_wellFormed
  rw [none, Nat.zero_add] at most
  rw [Machine.after_eq s.options moves holdable s.world_sound fits turn]
  exact ⟨fun counted => Machine.counting_eq counted run, fun full => Machine.counting_full full run,
    most⟩

/-- A room whose number is far out of the tables, gold at the end of its range, and nobody at this
    machine. -/
theorem Game.run_never_crashes_out_of_tables :
    let s := { Settings.usual with
      myPlayer := 200
      income := 9223372036854775807
      names := { Names.stock with rooms := ⟨[("ABYSS", 4294967295)]⟩ } }
    let moves := [.loadLevel ("ADD_CREATURE_TO_LEVEL(PLAYER0,IMP,PLAYER0,2,1,9223372036854775807)\n" ++
      "IF(ALL_PLAYERS,TOTAL_CREATURES >= 2)\nROOM_AVAILABLE(ALL_PLAYERS,ABYSS,1,1)\nENDIF\n"),
      .advance, .tick]
    let g := fresh s.options s.world.value
    Machine.after s.options g moves = .ok (g.after s.options moves) := by
  intro s moves g
  have holdable : ∀ text, .loadLevel text ∈ moves → Machine.Holdable text := by
    intro text there
    rcases List.mem_cons.1 there with same | later
    · cases same
      show _ < _
      decide +kernel
    · simp at later
  have turn : (g.after s.options moves).world.turn < 9223372036854775808 := by decide +kernel
  obtain ⟨runs, -, most⟩ := run_never_crashes s moves holdable turn
  exact runs (Nat.lt_of_le_of_lt most (by decide))

/-! ## Ticks without turns -/

namespace Game

variable {g : Game}

/-- The script has one condition, whether player 0 has gold or none, and nothing else. -/
structure OnlyAsks (g : Game) : Prop where
  asks : g.script.conditions.map (·.question) = [(none, .one 0, .measure .money 0 .greaterEqual 0)]
  entries : g.script.spawns = [] ∧ g.script.tunnellers = [] ∧ g.script.effects = []
  verdicts : g.script.wins = [] ∧ g.script.losses = []
  undecided : g.world.decided = false

theorem giveVerdicts_of_none {s : Script} (none_ : s.wins = [] ∧ s.losses = []) (w : World) :
    (s.giveVerdicts w).value = w := by
  unfold Script.giveVerdicts
  rw [none_.1, none_.2]
  split <;> rfl

/-- A tick of such a script takes one reading, and that is all it does to the world. -/
theorem OnlyAsks.tick (asks : g.OnlyAsks) (o : Options) :
    (g.tick o).value.OnlyAsks ∧ (g.tick o).value.world = g.world.countReadings 1 := by
  obtain ⟨asks, ⟨spawns, tunnellers, effects⟩, verdicts, undecided⟩ := asks
  have goesOn : g.isOver o = false := by
    rw [isOver, undecided]
    rfl
  have once : (sweep g.world g.script.conditions).value.readings = 1 := by
    obtain ⟨⟨parent, players, test, status⟩, one, question⟩ := List.map_eq_singleton_iff.1 asks
    cases question
    rw [one, sweep, sweepAfter, Logged.value_bind]
    show 0 + (Condition.sweep g.world [] [] _).value.2 = 1
    rw [Condition.sweep_readings]
    show 0 + (g.world.ask (.measure .money 0 .greaterEqual 0) [0]).2 = 1
    rw [World.ask]
    split <;> rfl
  have world : (g.tick o).value.world = g.world.countReadings 1 := by
    rw [tick_of_processed goesOn]
    simp only [Script.turn, Logged.value_bind, spawns, tunnellers, effects, Gated.fireAll,
      Logged.value_pure, once]
    exact giveVerdicts_of_none (s := g.script.afterSweep _) verdicts _
  have script := tick_script o g
  rw [if_neg (ne_true_of_eq_false goesOn)] at script
  refine ⟨⟨?_, ?_, ?_, ?_⟩, world⟩
  · rw [script]
    exact (swept_question g.script.conditions g.world).trans asks
  · rw [script]
    simp only [Script.afterSweep, spawns, tunnellers, effects]
    exact ⟨rfl, rfl, rfl⟩
  · rw [script]
    exact verdicts
  · rw [world]
    exact undecided

theorem OnlyAsks.after_ticks (o : Options) (n : Nat) : ∀ {g : Game}, g.OnlyAsks →
    (g.after o (List.replicate n .tick)).world = g.world.countReadings n := by
  induction n with
  | zero =>
    intro g _
    rfl
  | succ n ih =>
    intro g asks
    obtain ⟨asks', world⟩ := asks.tick o
    show ((g.tick o).value.after o (List.replicate n .tick)).world = _
    rw [ih asks', world]
    show { g.world with readings := g.world.readings + 1 + n } = g.world.countReadings (n + 1)
    rw [Nat.add_assoc, Nat.add_comm 1]
    rfl

def asking : String := "IF(PLAYER0,MONEY >= 0)\nENDIF\n"

/-- Once `asking` is loaded, ticks take readings on turn 0 and without any creature, until the
    readings do not fit their count. -/
theorem after_asking {n : Nat} (full : Machine.counterEnd ≤ n) :
    let o := Settings.usual.options
    let g := fresh o Settings.usual.world.value
    let moves := .loadLevel asking :: List.replicate n .tick
    (∀ text, .loadLevel text ∈ moves → Machine.Holdable text) ∧
      (g.after o moves).world.turn = 0 ∧ (g.after o moves).world.creatures = #[] ∧
      Machine.after o g moves = .error .overflow := by
  intro o g moves
  have asks : (g.play o (.loadLevel asking)).OnlyAsks := by
    refine ⟨?_, ?_, ?_, ?_⟩ <;> decide +kernel
  have world : (g.after o moves).world = (g.play o (.loadLevel asking)).world.countReadings n :=
    asks.after_ticks o n
  obtain ⟨turn, creatures⟩ : (g.play o (.loadLevel asking)).world.turn = 0 ∧
      (g.play o (.loadLevel asking)).world.creatures = #[] := by decide +kernel
  have holdable : ∀ text, .loadLevel text ∈ moves → Machine.Holdable text := by
    intro text there
    rcases List.mem_cons.1 there with same | later
    · cases same
      show _ < _
      decide +kernel
    · cases List.eq_of_mem_replicate later
  have early : (g.after o moves).world.turn < 9223372036854775808 := by
    rw [world]
    exact Nat.lt_of_le_of_lt (Nat.le_of_eq turn) (by decide)
  have fits : g.world.readings < Machine.counterEnd := by decide +kernel
  have many : Machine.counterEnd ≤ (g.after o moves).world.readings := by
    rw [world]
    exact Nat.le_trans full (Nat.le_add_left ..)
  refine ⟨holdable, ?_, ?_, ?_⟩
  · rw [world]
    exact turn
  · rw [world]
    exact creatures
  · rw [Machine.after_eq o moves holdable Settings.usual.world_sound fits early]
    exact Machine.counting_full many _

/-- 2^64 ticks of a script with one condition are too many, though the turn is 0 and there is no
    creature. -/
theorem run_crashes_without_turns :
    let o := Settings.usual.options
    let g := fresh o Settings.usual.world.value
    let moves := .loadLevel asking :: List.replicate 18446744073709551616 .tick
    (∀ text, .loadLevel text ∈ moves → Machine.Holdable text) ∧
      (g.after o moves).world.turn = 0 ∧ (g.after o moves).world.creatures = #[] ∧
      Machine.after o g moves = .error .overflow :=
  after_asking (Nat.le_refl _)

end Game

end DungeonScript
