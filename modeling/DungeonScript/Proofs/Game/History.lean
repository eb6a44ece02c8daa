import DungeonScript.Proofs.Game.Deeds
import DungeonScript.Proofs.World.Dials

/-!
What has happened since a level was loaded. Effects are carried out by lines and fire on ticks, and
turns go by; in this order they are the history of a run (`history`). The dials of every player are
what this history makes of clear dials (`Recorded`): the load clears them, and nothing but effects
and turns moves them (`dials_moved`). So a timer reads the turns since it was last set, and a flag
what it was last set to (`dials_tell_history`).
-/

namespace DungeonScript

namespace Game

/-! ## Loads -/

def loadEvents (text : String) (g : Game) : List Event :=
  (carriedOut (scriptLines text) g.cleared).map .did

theorem Effect.InBounds.numbered {w : World} {e : Effect} (inBounds : e.InBounds w) :
    (Event.did e).Numbered := by
  cases e with
  | setTimer | setFlag => exact inBounds.2
  | _ => trivial

theorem dials_moved (p : Player) :
    MovedByEffects (fun w => w.dials p) fun d e => d.after p (.did e) where
  effect script e w := Effect.dials_apply script e w p
  peopled := World.dials_of_unpeopled
  setUp applied := Setup.dials_apply applied p
  counted _ _ := rfl
  verdict w v player := World.dials_pronounce w v player

theorem foldl_after_did (p : Player) (effects : List Effect) (d : Dials) :
    effects.foldl (fun d e => d.after p (.did e)) d = d.afterAll p (effects.map .did) := by
  unfold Dials.afterAll
  rw [List.foldl_map]

theorem carriedOut_numbered (lines : List (Nat × List Char)) (g : Game) :
    ∀ e ∈ g.carriedOut lines, (Event.did e).Numbered := by
  induction lines generalizing g with
  | nil => exact fun _ none => absurd none List.not_mem_nil
  | cons line rest ih =>
    intro e here
    rcases List.mem_append.1 here with now | later
    · obtain ⟨_, _, l, _, meaning⟩ := carries?_eq_some.1 (Option.mem_toList.1 now)
      exact Effect.InBounds.numbered (Command.resolve_ofLine _ _ l _ meaning).inBounds
    · exact ih _ e later

/-! ## Runs -/

/-- What has happened since the last load, once a step has been taken. -/
def eventsAfter (o : Options) (past : List Event) (g : Game) : Move → List Event
  | .loadLevel text => (g.preload text).value.loadEvents text
  | .advance => past ++ [.turned]
  | .tick => past ++ (g.firedEffects o).map .did

/-- What has happened since the last load at the end of a run; `past` is what had happened at its
    start. -/
def history (o : Options) : List Event → Game → List Move → List Event
  | past, _, [] => past
  | past, g, m :: rest => history o (g.eventsAfter o past m) (g.play o m) rest

/-- The past tells the dials of every player, and is about timers and flags that there are, as is
    what the store has in readiness. -/
structure Recorded (g : Game) (past : List Event) : Prop where
  dials : ∃ turn, ∀ p, g.world.dials p = (Dials.clear turn).afterAll p past
  numbered : ∀ ev ∈ past, ev.Numbered
  inBounds : g.script.Entries (·.InBounds g.world)

theorem load_recorded (text : String) (g : Game) :
    (g.load text).value.Recorded (g.loadEvents text) where
  dials := by
    refine ⟨g.world.turn, fun p => ?_⟩
    rw [(dials_moved p).load, foldl_after_did, World.dials_forNewLevel]
    rfl
  numbered := by
    intro ev here
    obtain ⟨e, there, rfl⟩ := List.mem_map.1 here
    exact carriedOut_numbered _ _ e there
  inBounds := (load_entries text g).mono fun c stored =>
    stored.elim fun l asked => asked.ofLine.1.inBounds

theorem firedEffects_inBounds {o : Options} {g : Game}
    (inBounds : g.script.Entries (·.InBounds g.world)) :
    ∀ e ∈ g.firedEffects o, e.InBounds g.world := by
  intro e here
  unfold firedEffects at here
  split at here
  · cases here
  · obtain ⟨entry, fires, rfl⟩ := List.mem_map.1 here
    exact inBounds.effects entry (List.mem_filter.1 fires).1

theorem Recorded.play (o : Options) {g : Game} {past : List Event} (recorded : g.Recorded past)
    (m : Move) : (g.play o m).Recorded (g.eventsAfter o past m) := by
  obtain ⟨turn, dials⟩ := recorded.dials
  have inBounds := play_inBounds o m recorded.inBounds
  cases m with
  | loadLevel text => exact load_recorded text _
  | advance =>
    refine ⟨⟨turn, fun p => ?_⟩, ?_, inBounds⟩
    · show g.world.advance.value.dials p = _
      rw [World.dials_advance, dials, eventsAfter, Dials.afterAll_append]
      rfl
    · exact forall_mem_concat recorded.numbered trivial
  | tick =>
    refine ⟨⟨turn, fun p => ?_⟩, ?_, inBounds⟩
    · show (g.tick o).value.world.dials p = _
      rw [(dials_moved p).tick, foldl_after_did, dials, eventsAfter, Dials.afterAll_append]
    · intro ev here
      rcases List.mem_append.1 here with before | now
      · exact recorded.numbered ev before
      · obtain ⟨e, fires, rfl⟩ := List.mem_map.1 now
        exact Effect.InBounds.numbered (firedEffects_inBounds recorded.inBounds e fires)

theorem Recorded.after (o : Options) (moves : List Move) {g : Game} {past : List Event}
    (recorded : g.Recorded past) : (g.after o moves).Recorded (history o past g moves) := by
  induction moves generalizing g past with
  | nil => exact recorded
  | cons m rest ih => exact ih (recorded.play o m)

/-- **Timers and flags tell what has happened since the load.** Let a text be loaded, and let turns
    of the world, ticks and further level loads follow in any way. Of the effects that lines have
    carried out at once and that have fired on ticks since the last load, and of the turns that
    have gone by, let `past` be the list in order. While turns are counted below 2^63, a timer of
    a player reads 0 if none of these effects has set it for that player or for all, and otherwise
    the turns that have gone by since the last that did; a flag reads 0 if none has set it, and
    otherwise what the last that did has set it to. -/
theorem dials_tell_history (o : Options) (text : String) (g : Game) (moves : List Move)
    (p : Player) :
    let now := ((g.load text).value.after o moves).world
    let past := history o (g.loadEvents text) (g.load text).value moves
    (now.turn < 9223372036854775808 → ∀ n < timerCount,
      ((∀ ev ∈ past, ev.setsTimer p n = false) → now.measure p .timer n = 0) ∧
      ∀ before ev later, past = before ++ ev :: later → ev.setsTimer p n = true →
        (∀ ev ∈ later, ev.setsTimer p n = false) →
        now.measure p .timer n = later.count .turned) ∧
    ∀ n < flagCount,
      ((∀ ev ∈ past, ev.flagSet? p n = none) → now.measure p .flag n = 0) ∧
      ∀ before ev later value, past = before ++ ev :: later → ev.flagSet? p n = some value →
        (∀ ev ∈ later, ev.flagSet? p n = none) → now.measure p .flag n = value := by
  intro now past
  have recorded : Recorded _ past := (load_recorded text g).after o moves
  obtain ⟨turn, dials⟩ := recorded.dials
  have numbered := recorded.numbered
  refine ⟨fun range n h => ⟨?_, ?_⟩, fun n h => ⟨?_, ?_⟩⟩
  · intro unset
    exact World.timer_unset (dials p) numbered h unset
  · intro before ev later split set unset
    exact World.timer_since (dials p) numbered h range split set unset
  · intro unset
    exact World.flag_unset (dials p) numbered h unset
  · intro before ev later value split set unset
    exact World.flag_since (dials p) numbered h split set unset

/-- A timer set by the load reads the turns since; a flag reads what a tick has set it to; and
    what nothing sets reads 0. -/
theorem dials_tell_history_of_run :
    let text := "SET_TIMER(ALL_PLAYERS,TIMER2)\nIF(PLAYER0,MONEY >= 0)\n" ++
      "SET_FLAG(PLAYER0,FLAG1,9)\nENDIF\n"
    let moves := [.advance, .tick, .advance]
    let now := ((load text default).value.after .usual moves).world
    now.measure 0 .timer 2 = 2 ∧ now.measure 0 .flag 1 = 9 ∧
      now.measure 1 .timer 0 = 0 ∧ now.measure 1 .flag 1 = 0 := by
  intro text moves now
  let timer : Event := .did (.setTimer .all 2)
  let flag : Event := .did (.setFlag (.one 0) 1 9)
  obtain ⟨past, range⟩ :
      history .usual (loadEvents text default) (load text default).value moves =
        [timer, .turned, flag, .turned] ∧ now.turn < 9223372036854775808 := by
    decide +kernel
  obtain ⟨timers, flags⟩ := dials_tell_history .usual text default moves 0
  obtain ⟨timers', flags'⟩ := dials_tell_history .usual text default moves 1
  rw [past] at timers flags timers' flags'
  refine ⟨?_, ?_, ?_, ?_⟩
  · exact (timers range 2 (by decide)).2 [] timer _ rfl (by decide) (by decide)
  · exact (flags 1 (by decide)).2 [timer, .turned] flag [.turned] 9 rfl (by decide) (by decide)
  · exact (timers' range 0 (by decide)).1 (by decide)
  · exact (flags' 1 (by decide)).1 (by decide)

end Game

end DungeonScript
