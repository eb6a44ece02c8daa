import DungeonScript.Proofs.World.Frame
import DungeonScript.World.Measuring

/-!
Timers and flags. A player's dials are the timers and flags of the dungeon, with the turn they
are read on (`Dials`). Of all that happens in a game, two things move them: a turn goes by, or an
effect that sets a timer or a flag is carried out. `Dials.after` says how; what an effect does to
the dials of a player is what it says there (`dials_apply`), and spawns, tunnellers, setup orders
and verdicts do nothing to them.

What a timer or flag reads after a row of events is settled by the last of them that sets it
(`timer_since`, `flag_since`), and by where it stood before if none does (`timer_unset`,
`flag_unset`).
-/

namespace DungeonScript

/-- What happens to the timers and flags of a game. -/
inductive Event where
  /-- A turn goes by. -/
  | turned
  /-- An effect is carried out. -/
  | did (e : Effect)
  deriving DecidableEq

/-- The timers and flags of a player, and the turn they are read on. -/
structure Dials where
  turn : Nat
  timers : Vector TurnTimer timerCount
  flags : Vector Int flagCount

def Dungeon.settings (d : Dungeon) : Vector TurnTimer timerCount × Vector Int flagCount :=
  (d.timers, d.flags)

namespace Dials

/-- No timer running and no flag set. -/
def clear (turn : Nat) : Dials := ⟨turn, .replicate _ .idle, .replicate _ 0⟩

def after (p : Player) (d : Dials) : Event → Dials
  | .turned => { d with turn := d.turn + 1 }
  | .did (.setTimer ps timer) =>
    if ps.includes p then
      { d with timers := updateAt d.timers (slotOf timerCount_pos timer) fun _ => ⟨true, d.turn⟩ }
    else d
  | .did (.setFlag ps flag value) =>
    if ps.includes p then
      { d with flags := updateAt d.flags (slotOf flagCount_pos flag) fun _ => value }
    else d
  | .did _ => d

/-- The dials of player `p` after a row of events. -/
def afterAll (p : Player) (d : Dials) (events : List Event) : Dials := events.foldl (after p) d

theorem afterAll_append (p : Player) (d : Dials) (events more : List Event) :
    d.afterAll p (events ++ more) = (d.afterAll p events).afterAll p more :=
  List.foldl_append

end Dials

/-! ## Worlds -/

namespace World

def dials (w : World) (p : Player) : Dials := ⟨w.turn, (w.dungeon p).timers, (w.dungeon p).flags⟩

section Dials

variable {w w' : World} {p : Player}

theorem dials_congr (turn : w'.turn = w.turn)
    (settings : (w'.dungeon p).settings = (w.dungeon p).settings) : w'.dials p = w.dials p := by
  have timers : (w'.dungeon p).timers = (w.dungeon p).timers := congrArg Prod.fst settings
  have flags : (w'.dungeon p).flags = (w.dungeon p).flags := congrArg Prod.snd settings
  unfold dials
  rw [turn, timers, flags]

theorem dials_of_unpeopled (same : w'.unpeopled = w.unpeopled) : w'.dials p = w.dials p :=
  have settings : (w'.dungeon p).unpeopled.settings = (w.dungeon p).unpeopled.settings :=
    congrArg Dungeon.settings (dungeon_of_unpeopled same p)
  dials_congr (congrArg Frame.turn (frame_of_unpeopled same)) settings

theorem dials_onRealm (q : Player) {f : Realm → Realm} (spares : Realm.SparesDials f) :
    (w.onRealm q f).dials p = w.dials p := by
  refine dials_congr rfl ?_
  exact realm_onRealm_keeps (k := fun r => r.dungeon.settings)
    (fun r => Prod.ext (spares r).1 (spares r).2) w q p

theorem dials_pronounce (w : World) (v : Verdict) (player : Nat) :
    (w.pronounce v player).dials p = w.dials p :=
  pronounce_keeps (k := fun w => w.dials p) (fun _ _ _ => rfl) w v player

/-- What an effect does to a player's dungeon if it is done to the players named. -/
theorem dungeon_onEachDungeon (ps : Selector) (f : Dungeon → Dungeon) :
    (w.onEachDungeon ps.everyone f).dungeon p =
      if ps.includes p then f (w.dungeon p) else w.dungeon p := by
  unfold dungeon onEachDungeon
  rw [realm_onEach_everyone]
  split <;> rfl

theorem dials_advance (w : World) (p : Player) :
    w.advance.value.dials p = (w.dials p).after p .turned :=
  advance_keeps (k := fun w => w.dials p) (fun q _ _ _ => dials_onRealm q fun _ => ⟨rfl, rfl⟩)
    (fun _ _ _ _ _ => rfl) w

theorem dials_forNewLevel (w : World) (p : Player) : w.forNewLevel.dials p = .clear w.turn := by
  have turn : w.forNewLevel.turn = w.turn := congrArg Frame.turn (onEachDungeon_frame _ _ w)
  have cleared : w.forNewLevel.dungeon p = (w.dungeon p).forNewLevel :=
    congrArg Realm.dungeon (w.realm_forNewLevel p)
  unfold dials
  rw [turn, cleared]
  rfl

end Dials

end World

open World in
theorem Effect.dials_apply (script : Script) (e : Effect) (w : World) (p : Player) :
    (e.apply script w).value.dials p = (w.dials p).after p (.did e) := by
  have turn (ps : Selector) (f : Dungeon → Dungeon) : (w.onEachDungeon ps.everyone f).turn = w.turn :=
    congrArg Frame.turn (onEachDungeon_frame ps.everyone f w)
  have others (aside : e.aboutDials = false) :
      (e.apply script w).value.dials p = w.dials p :=
    Effect.apply_keeps (k := fun w => w.dials p)
      (fun q _ _ spares => dials_onRealm q (spares.dials aside))
      (fun q w id => dials_of_unpeopled (killOnes_unpeopled q [id] w))
      (fun _ _ _ _ _ _ _ _ => rfl) script w
  cases e with
  | setTimer ps timer =>
    simp only [apply, Logged.value_pure, dials, turn, dungeon_onEachDungeon, Dials.after]
    split <;> rfl
  | setFlag ps flag value =>
    simp only [apply, Logged.value_pure, dials, turn, dungeon_onEachDungeon, Dials.after]
    split <;> rfl
  | _ => exact others rfl

theorem Setup.dials_apply {order : Setup} {w w' : World} (done : (order.apply w).value = .done w')
    (p : Player) : w'.dials p = w.dials p := by
  rcases Setup.apply_cases done with ⟨f, players, setsUp, rfl⟩ | ⟨rules, swaps, rfl⟩
  · exact World.onEach_keeps (k := fun w => w.dials p)
      (fun q _ _ => World.dials_onRealm q setsUp.dials) w
  · rfl

/-! ## Readings -/

namespace Event

/-- Whether the event sets a timer of player `p`. -/
def setsTimer (p : Player) (timer : Nat) : Event → Bool
  | did (.setTimer ps number) => ps.includes p && number == timer
  | _ => false

/-- What the event sets a flag of player `p` to, if it does. -/
def flagSet? (p : Player) (flag : Nat) : Event → Option Int
  | did (.setFlag ps number value) => if ps.includes p && number == flag then some value else none
  | _ => none

/-- A timer or flag the event sets is one of those there are. -/
def Numbered : Event → Prop
  | did (.setTimer _ timer) => timer < timerCount
  | did (.setFlag _ flag _) => flag < flagCount
  | _ => True

end Event

namespace Dials

variable {p : Player} {n : Nat}

theorem turn_did (d : Dials) (e : Effect) : (d.after p (.did e)).turn = d.turn := by
  cases e with
  | setTimer | setFlag =>
    simp only [after]
    split <;> rfl
  | _ => rfl

theorem turn_afterAll (events : List Event) (d : Dials) :
    (d.afterAll p events).turn = d.turn + events.count .turned := by
  induction events generalizing d with
  | nil => rfl
  | cons ev rest ih =>
    refine (ih (d.after p ev)).trans ?_
    cases ev with
    | turned =>
      show d.turn + 1 + rest.count .turned = _
      rw [List.count_cons_self]
      omega
    | did e => rw [turn_did, List.count_cons_of_ne Event.noConfusion]

theorem timer_after {ev : Event} (numbered : ev.Numbered) (d : Dials) (h : n < timerCount) :
    (d.after p ev).timers[n] = if ev.setsTimer p n then ⟨true, d.turn⟩ else d.timers[n] := by
  cases ev with
  | turned => rfl
  | did e =>
    cases e with
    | setTimer ps timer =>
      have known : timer % timerCount = timer := Nat.mod_eq_of_lt numbered
      cases named : ps.includes p.val with
      | true =>
        simp only [after, Event.setsTimer, named, if_true, getElem_updateAt, known, Bool.true_and,
          beq_iff_eq]
      | false =>
        simp only [after, Event.setsTimer, named, Bool.false_and]
        rfl
    | setFlag =>
      simp only [after]
      split <;> rfl
    | _ => rfl

theorem flag_after {ev : Event} (numbered : ev.Numbered) (d : Dials) (h : n < flagCount) :
    (d.after p ev).flags[n] = (ev.flagSet? p n).getD d.flags[n] := by
  cases ev with
  | turned => rfl
  | did e =>
    cases e with
    | setFlag ps flag value =>
      have known : flag % flagCount = flag := Nat.mod_eq_of_lt numbered
      cases named : ps.includes p.val with
      | true =>
        simp only [after, Event.flagSet?, named, if_true, getElem_updateAt, known, Bool.true_and,
          beq_iff_eq]
        split <;> rfl
      | false =>
        simp only [after, Event.flagSet?, named, Bool.false_and]
        rfl
    | setTimer =>
      simp only [after]
      split <;> rfl
    | _ => rfl

theorem timer_afterAll {events : List Event} (numbered : ∀ ev ∈ events, ev.Numbered)
    (h : n < timerCount) (unset : ∀ ev ∈ events, ev.setsTimer p n = false) (d : Dials) :
    (d.afterAll p events).timers[n] = d.timers[n] := by
  induction events generalizing d with
  | nil => rfl
  | cons ev rest ih =>
    obtain ⟨first, numbered⟩ := List.forall_mem_cons.1 numbered
    obtain ⟨quiet, unset⟩ := List.forall_mem_cons.1 unset
    refine (ih numbered unset (d.after p ev)).trans ?_
    rw [timer_after first d h, quiet]
    rfl

theorem flag_afterAll {events : List Event} (numbered : ∀ ev ∈ events, ev.Numbered)
    (h : n < flagCount) (unset : ∀ ev ∈ events, ev.flagSet? p n = none) (d : Dials) :
    (d.afterAll p events).flags[n] = d.flags[n] := by
  induction events generalizing d with
  | nil => rfl
  | cons ev rest ih =>
    obtain ⟨first, numbered⟩ := List.forall_mem_cons.1 numbered
    obtain ⟨quiet, unset⟩ := List.forall_mem_cons.1 unset
    refine (ih numbered unset (d.after p ev)).trans ?_
    rw [flag_after first d h, quiet]
    rfl

end Dials

namespace World

variable {w : World} {p : Player} {n turn : Nat} {events before later : List Event} {ev : Event}

theorem measure_timer (w : World) (p : Player) (h : n < timerCount) :
    w.measure p .timer n = w.timerTurns (w.dials p).timers[n] := by
  have slot : slotOf timerCount_pos n = ⟨n, h⟩ := Fin.ext (Nat.mod_eq_of_lt h)
  show w.timerTurns ((w.dungeon p).timers.get (slotOf timerCount_pos n)) = _
  rw [slot]
  rfl

theorem measure_flag (w : World) (p : Player) (h : n < flagCount) :
    w.measure p .flag n = (w.dials p).flags[n] := by
  have slot : slotOf flagCount_pos n = ⟨n, h⟩ := Fin.ext (Nat.mod_eq_of_lt h)
  show (w.dungeon p).flags.get (slotOf flagCount_pos n) = _
  rw [slot]
  rfl

section Since

variable (past : w.dials p = (Dials.clear turn).afterAll p events)
  (numbered : ∀ ev ∈ events, ev.Numbered)

include past numbered

theorem timer_unset (h : n < timerCount) (unset : ∀ ev ∈ events, ev.setsTimer p n = false) :
    w.measure p .timer n = 0 := by
  have idle : (w.dials p).timers[n] = TurnTimer.idle := by
    simp only [past, Dials.timer_afterAll numbered h unset, Dials.clear, Vector.getElem_replicate]
  rw [measure_timer w p h, idle]
  rfl

theorem flag_unset (h : n < flagCount) (unset : ∀ ev ∈ events, ev.flagSet? p n = none) :
    w.measure p .flag n = 0 := by
  rw [measure_flag w p h]
  simp only [past, Dials.flag_afterAll numbered h unset, Dials.clear, Vector.getElem_replicate]

/-- A timer reads the turns that have gone by since it was last set. -/
theorem timer_since (h : n < timerCount) (range : w.turn < 9223372036854775808)
    (split : events = before ++ ev :: later) (set : ev.setsTimer p n = true)
    (unset : ∀ ev ∈ later, ev.setsTimer p n = false) :
    w.measure p .timer n = later.count .turned := by
  subst split
  obtain ⟨_, numbered⟩ := List.forall_mem_append.1 numbered
  obtain ⟨setting, numbered⟩ := List.forall_mem_cons.1 numbered
  let d := (Dials.clear turn).afterAll p before
  have whole : w.dials p = (d.after p ev).afterAll p later := by
    rw [past, Dials.afterAll_append]
    rfl
  have timer : (w.dials p).timers[n] = ⟨true, d.turn⟩ := by
    simp only [whole, Dials.timer_afterAll numbered h unset, Dials.timer_after setting d h, set,
      if_true]
  have now : w.turn = d.turn + later.count .turned := by
    cases ev with
    | turned => cases set
    | did e =>
      calc w.turn
        _ = ((d.after p (.did e)).afterAll p later).turn := congrArg Dials.turn whole
        _ = d.turn + later.count .turned := by rw [Dials.turn_afterAll, Dials.turn_did]
  have set : d.turn < 9223372036854775808 := by omega
  rw [measure_timer w p h, timer, timerTurns, if_pos rfl, signedCount_eq range, signedCount_eq set,
    now]
  omega

theorem flag_since (h : n < flagCount) {value : Int} (split : events = before ++ ev :: later)
    (set : ev.flagSet? p n = some value) (unset : ∀ ev ∈ later, ev.flagSet? p n = none) :
    w.measure p .flag n = value := by
  subst split
  obtain ⟨_, numbered⟩ := List.forall_mem_append.1 numbered
  obtain ⟨setting, numbered⟩ := List.forall_mem_cons.1 numbered
  rw [measure_flag w p h]
  simp only [past, Dials.afterAll_append]
  let d := (Dials.clear turn).afterAll p before
  show ((d.after p ev).afterAll p later).flags[n] = value
  rw [Dials.flag_afterAll numbered h unset, Dials.flag_after setting d h, set]
  rfl

end Since

end World

end DungeonScript
