import DungeonScript.Proofs.Game.Verdicts
import DungeonScript.Report
import Mathlib.Logic.Function.Iterate

/-!
Stopping early. A run ends with the turn on which the game is over. Had it gone on, the world alone
would have moved: its turns are counted, keepers earn and action points are entered, and nothing of
this opens a level again that is decided (`isOver_pass`), so that the script has no turn any more
(`playTurns_of_over`). With these three taken out (`timeless`) the game a run stops with is the one
that it would have gone on to (`play_timeless`).
-/

namespace DungeonScript

/-! ## What the time changes -/

def Dungeon.penniless (d : Dungeon) : Dungeon := { d with gold := 0, goldOffMap := 0 }

/-- The action point as if nobody had entered it. -/
def ActionPoint.unentered (a : ActionPoint) : ActionPoint := { a with activations := 0 }

namespace Catalogue

/-- An entry may be changed unseen if its image stays. -/
theorem map_put {α β : Type} {f : α → β} {c : Catalogue α} {k : Nat} {old new : α}
    (there : c.get? k = some old) (alike : f new = f old) :
    (c.put k new).map (Prod.map id f) = c.map (Prod.map id f) := by
  induction c with
  | nil => cases there
  | cons e rest ih =>
    unfold put
    by_cases here : (e.1 == k) = true
    · have entry : e = (k, old) := by
        simp only [get?, List.find?_cons, here, Option.map_some, Option.some.injEq] at there
        exact Prod.ext (beq_iff_eq.1 here) there
      simp only [entry, beq_self_eq_true, if_true, List.map_cons, Prod.map_apply, alike]
    · have later : get? rest k = some old := by
        simpa only [get?, List.find?_cons, here] using there
      simp only [here, Bool.false_eq_true, if_false, List.map_cons, ih later]

end Catalogue

namespace World

/-- The world without the number of its turn, the gold of its keepers, and the entries into its
    action points. -/
def timeless (w : World) : World := { w with
  turn := 0
  realms := .ofFn fun p : Player =>
    if p ∈ keepers then (w.realm p).onDungeon Dungeon.penniless else w.realm p
  points := w.points.map (Prod.map id ActionPoint.unentered) }

theorem timeless_addGold (w : World) {p : Player} (keeper : p ∈ keepers) (amount : Int) :
    (w.onDungeon p (·.addGold amount)).timeless = w.timeless := by
  have realms : (w.onDungeon p (·.addGold amount)).timeless.realms = w.timeless.realms := by
    apply Vector.ext
    intro i hi
    simp only [timeless, Vector.getElem_ofFn]
    unfold onDungeon
    by_cases same : p = ⟨i, hi⟩
    · subst same
      rw [if_pos keeper, if_pos keeper, realm_onRealm_self]
      rfl
    · rw [realm_onRealm_of_ne w _ same]
  exact congrArg (fun realms => { w.timeless with realms }) realms

/-- An entry into an action point is none of the world without time. -/
theorem timeless_enter (w : World) {number : Nat} {old : ActionPoint} (activations : Nat)
    (here : w.points.get? number = some old) :
    { w with points := w.points.put number { old with activations } }.timeless = w.timeless := by
  have points : (w.points.put number { old with activations }).map
      (Prod.map id ActionPoint.unentered) = w.points.map (Prod.map id ActionPoint.unentered) :=
    Catalogue.map_put here rfl
  exact congrArg (fun points => { w.timeless with points }) points

theorem timeless_advance (w : World) : w.advance.value.timeless = w.timeless :=
  advance_keeps (k := timeless) (fun _ keeper amount w => w.timeless_addGold keeper amount)
    (fun w _ _ activations here => w.timeless_enter activations here) w

end World

namespace Game

variable {o : Options}

/-- The game without the time of its world. -/
def timeless (g : Game) : Game := { g with world := g.world.timeless }

/-! ## Turns of the world alone -/

/-- The game after the world alone has moved on by a turn. -/
def pass (g : Game) : Game := g.advance.value

theorem timeless_pass (g : Game) : g.pass.timeless = g.timeless :=
  congrArg (fun world => { g with world }) g.world.timeless_advance

theorem isOver_pass (g : Game) : g.pass.isOver o = g.isOver o :=
  congrArg (· && !o.runAfterVictory) (World.decided_of_tally g.world.advance_tally)

theorem turn_pass (g : Game) : g.pass.world.turn = g.world.turn + 1  := g.world.turn_advance

theorem timeless_passes (n : Nat) (g : Game) : (pass^[n] g).timeless = g.timeless := by
  induction n generalizing g with
  | zero => rfl
  | succ n ih => exact (ih g.pass).trans g.timeless_pass

theorem turn_passes (n : Nat) (g : Game) : (pass^[n] g).world.turn = g.world.turn + n := by
  induction n generalizing g with
  | zero => rfl
  | succ n ih =>
    have later : (pass^[n] g.pass).world.turn = g.pass.world.turn + n := ih g.pass
    rw [turn_pass] at later
    show (pass^[n] g.pass).world.turn = g.world.turn + (n + 1)
    omega

/-! ## Turns after the last one -/

theorem playTurn_of_over {g : Game} (ends : g.isOver o = true) :
    (g.playTurn o).value = g.pass := by
  have still : g.pass.isOver o = true := g.isOver_pass.trans ends
  show (g.pass.tick o).value = g.pass
  rw [tick_of_over still]

theorem playTurns_of_over (n : Nat) {g : Game} (ends : g.isOver o = true) :
    (playTurns o n g).value = pass^[n] g := by
  induction n generalizing g with
  | zero => rfl
  | succ n ih =>
    show (playTurns o n (g.playTurn o).value).value = pass^[n] g.pass
    rw [playTurn_of_over ends]
    exact ih (g.isOver_pass.trans ends)

/-- Turns that are played through are those up to the one on which the game is ends, and then turns
    of the world alone. -/
theorem playTurns_eq_passes (n : Nat) (g : Game) :
    ∃ skipped ≤ n, (playTurns o n g).value = pass^[skipped] (playUntilOver o n g).value ∧
      (skipped ≠ 0 → (playUntilOver o n g).value.isOver o = true) := by
  induction n generalizing g with
  | zero => exact ⟨0, Nat.le_refl 0, rfl, fun some => absurd rfl some⟩
  | succ n ih =>
    have played : (playTurns o (n + 1) g).value = (playTurns o n (g.playTurn o).value).value := rfl
    by_cases ends : (g.playTurn o).value.isOver o = true
    · have stops : (playUntilOver o (n + 1) g).value = (g.playTurn o).value := by
        rw [playUntilOver, Logged.value_bind, if_pos ends]
        rfl
      rw [played, stops]
      exact ⟨n, Nat.le_succ n, playTurns_of_over n ends, fun _ => ends⟩
    · have goesOn : (playUntilOver o (n + 1) g).value =
          (playUntilOver o n (g.playTurn o).value).value := by
        rw [playUntilOver, Logged.value_bind, if_neg ends]
      obtain ⟨skipped, within, same, ended⟩ := ih (g.playTurn o).value
      rw [played, goesOn]
      exact ⟨skipped, Nat.le_succ_of_le within, same, ended⟩

end Game

/-! ## Runs -/

open Game in
/-- **Stopping early changes nothing but the time.** Play a level for the number of turns set: up to
    the turn on which the game is over, as a run does, or to the end whatever happens. The second
    game is the first one after as many turns of the world alone as the run has left out, and it has
    left out none unless the game is over. So but for the number of the turn, the gold of the
    keepers and the entries into action points, the two are the same. -/
theorem Settings.play_timeless (s : Settings) (text : String) :
    let stopped := (s.play text).value
    let played := (playTurns s.options s.turns (s.start text).value).value
    played.timeless = stopped.timeless ∧
      ∃ skipped ≤ s.turns, played = pass^[skipped] stopped ∧
        played.world.turn = stopped.world.turn + skipped ∧
        (skipped ≠ 0 → stopped.isOver s.options = true) := by
  intro stopped played
  obtain ⟨skipped, within, same, ended⟩ :=
    playTurns_eq_passes (o := s.options) s.turns (s.start text).value
  have same : played = pass^[skipped] stopped := same
  refine ⟨?_, skipped, within, same, ?_, ended⟩
  · rw [same]
    exact timeless_passes skipped stopped
  · rw [same]
    exact turn_passes skipped stopped

/-- A level that is won on its first turn: two more turns bring a keeper its income and nothing
    else. -/
example :
    let s := { Settings.usual with turns := 3, income := 40 }
    let text := "IF(PLAYER0,GAME_TURN >= 1)\nWIN_GAME\nENDIF\nADD_CREATURE_TO_POOL(IMP,3)\n"
    let stopped := (s.play text).value
    let played := (Game.playTurns s.options s.turns (s.start text).value).value
    (stopped.world.turn, (stopped.world.dungeon 0).gold) = (1, 40) ∧
      (played.world.turn, (played.world.dungeon 0).gold) = (3, 120) ∧
      played.timeless = stopped.timeless := by decide +kernel

end DungeonScript
