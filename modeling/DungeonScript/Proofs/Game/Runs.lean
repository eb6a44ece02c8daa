import DungeonScript.Proofs.Game.Reachable
import DungeonScript.Proofs.Script.Firing

/-!
Runs of ticks. A loaded script is ticked in one world after the other, whatever became
of the world between two ticks (`ticks`). An entry is called on a tick if the sweep of
that tick leaves its condition met. A reusable entry fires on every tick that calls it;
any other fires on the first and never again (`stored_entries_fire`). Ticks after the
level is decided do not count: nothing fires on them.
-/

namespace DungeonScript

namespace Game

variable (o : Options)

/-- The game after a tick in each of these worlds. -/
def ticks : List World → Game → Game
  | [], g => g
  | w :: rest, g => ticks rest ({ g with world := w }.tick o).value

/-- The game as a tick in world `w` finds it, after ticks in the worlds `past`. -/
def found (past : List World) (w : World) (g : Game) : Game := { ticks o past g with world := w }

/-- The entries that fire when the game ticks, in their order. -/
def fired (g : Game) : List Slot :=
  if g.isOver o then [] else (g.script.visitTurn g.world).fired

/-- The tick calls the entry in this slot: it is not skipped, and its sweep leaves the
    condition of the entry met. -/
def Calls (g : Game) (x : Slot) : Prop :=
  g.isOver o = false ∧ ∃ e, g.script.stored? x = some e ∧
    Script.due (swept g.world g.script.conditions) e.condition = true

/-- The entry in this slot has fired on a tick of the past. -/
def FiredIn (past : List World) (g : Game) (x : Slot) : Prop :=
  ∃ earlier w later, past = earlier ++ w :: later ∧ x ∈ (g.found o earlier w).fired o

variable {o}

/-! ## One tick -/

theorem mem_fired {g : Game} {x : Slot} : x ∈ g.fired o ↔ g.isOver o = false ∧
    ∃ e, g.script.stored? x = some e ∧ e.use.spent = false ∧
      Script.due (swept g.world g.script.conditions) e.condition = true := by
  unfold fired
  cases g.isOver o with
  | true => simp
  | false =>
    rw [if_neg (by simp), (g.script.turn_eq_visitTurn g.world).1, Script.mem_firing]
    simp only [Gated.fires, Bool.and_eq_true, Bool.not_eq_true', true_and]
    rfl

theorem calls_of_mem_fired {g : Game} {x : Slot} (h : x ∈ g.fired o) : g.Calls o x := by
  obtain ⟨processed, e, stored, _, due⟩ := mem_fired.1 h
  exact ⟨processed, e, stored, due⟩

theorem stored?_afterSweep (s : Script) (conditions : List Condition) (x : Slot) :
    (s.afterSweep conditions).stored? x = (s.stored? x).map (·.afterTurn conditions) := by
  have bare : ∀ {α : Type} (e : Gated α),
      (e.afterTurn conditions).bare = e.bare.afterTurn conditions := by
    intro α e
    unfold Gated.afterTurn
    rw [show e.bare.fires conditions = e.fires conditions from rfl]
    split <;> rfl
  cases x with
  | spawn i => simp [Script.stored?, Script.afterSweep, Function.comp_def, bare]
  | tunneller i => simp [Script.stored?, Script.afterSweep, Function.comp_def, bare]
  | effect i => simp [Script.stored?, Script.afterSweep, Function.comp_def, bare]

theorem tick_of_processed {g : Game} (h : g.isOver o = false) : (g.tick o).value =
    { g with script := (g.script.turn g.world).value.1, world := (g.script.turn g.world).value.2 } := by
  unfold tick
  rw [h]
  rfl

theorem tick_of_over {g : Game} (h : g.isOver o = true) : (g.tick o).value = g := by
  unfold tick
  rw [h]
  rfl

/-- A tick marks the entries that fire on it, and no others. -/
theorem tick_stored? {g : Game} {x : Slot} {e : Gated Unit} (stored : g.script.stored? x = some e) :
    ∃ e', (g.tick o).value.script.stored? x = some e' ∧ e'.condition = e.condition ∧
      e'.use.reusable = e.use.reusable ∧ (e'.use.spent = true ↔
        e.use.spent = true ∨ e.use.reusable = false ∧ x ∈ g.fired o) := by
  cases ended : g.isOver o with
  | true =>
    rw [tick_of_over ended]
    refine ⟨e, stored, rfl, rfl, ?_⟩
    simp [fired, ended]
  | false =>
    rw [tick_of_processed ended]
    have fires : x ∈ g.fired o ↔ e.fires (swept g.world g.script.conditions) = true := by
      rw [mem_fired]
      simp [ended, stored, Gated.fires]
    refine ⟨e.afterTurn (swept g.world g.script.conditions), ?_, ?_⟩
    · show (g.script.afterSweep _).stored? x = _
      rw [stored?_afterSweep, stored]
      rfl
    · rw [fires]
      unfold Gated.afterTurn
      split
      · rename_i h
        cases hr : e.use.reusable <;> simp [Gated.afterFiring, Use.fired, hr, h]
      · rename_i h
        simp [h]

/-! ## Many ticks -/

theorem firedIn_cons {w : World} {rest : List World} {g : Game} {x : Slot} :
    FiredIn o (w :: rest) g x ↔
      x ∈ ({ g with world := w } : Game).fired o ∨
        FiredIn o rest ({ g with world := w }.tick o).value x := by
  constructor
  · intro h
    obtain ⟨earlier, w', later, whole, fires⟩ := h
    cases earlier with
    | nil =>
      obtain ⟨rfl, -⟩ := List.cons.inj whole
      exact .inl fires
    | cons w₀ earlier =>
      obtain ⟨rfl, tail⟩ := List.cons.inj whole
      exact .inr ⟨earlier, w', later, tail, fires⟩
  · intro h
    rcases h with fires | ⟨earlier, w', later, rfl, fires⟩
    · exact ⟨[], w, rest, rfl, fires⟩
    · exact ⟨w :: earlier, w', later, rfl, fires⟩

/-- After a run an entry is spent if it was, or if it may fire once only and has fired. -/
theorem ticks_stored? {x : Slot} (past : List World) {g : Game} {e : Gated Unit}
    (stored : g.script.stored? x = some e) :
    ∃ e', (ticks o past g).script.stored? x = some e' ∧ e'.condition = e.condition ∧
      e'.use.reusable = e.use.reusable ∧ (e'.use.spent = true ↔
        e.use.spent = true ∨ e.use.reusable = false ∧ FiredIn o past g x) := by
  induction past generalizing g e with
  | nil =>
    refine ⟨e, stored, rfl, rfl, ?_⟩
    have never : ¬FiredIn o [] g x := by
      intro h
      obtain ⟨earlier, w, later, whole, _⟩ := h
      cases earlier <;> cases whole
    simp [never]
  | cons w rest ih =>
    obtain ⟨e₁, stored₁, condition₁, reusable₁, spent₁⟩ :=
      tick_stored? (o := o) (g := { g with world := w }) stored
    obtain ⟨e', stored', condition', reusable', spent'⟩ := ih stored₁
    refine ⟨e', stored', condition'.trans condition₁, reusable'.trans reusable₁, ?_⟩
    rw [spent', spent₁, reusable₁, firedIn_cons, or_assoc, ← and_or_left]

theorem Untouched.stored?_unspent {s : Script} (h : Untouched s) {x : Slot} {e : Gated Unit}
    (stored : s.stored? x = some e) : e.use.spent = false := by
  cases x with
  | spawn i =>
    obtain ⟨b, found, rfl⟩ := Option.map_eq_some_iff.1 stored
    exact h.spawns b (List.mem_of_getElem? found)
  | tunneller i =>
    obtain ⟨b, found, rfl⟩ := Option.map_eq_some_iff.1 stored
    exact h.tunnellers b (List.mem_of_getElem? found)
  | effect i =>
    obtain ⟨b, found, rfl⟩ := Option.map_eq_some_iff.1 stored
    exact h.effects b (List.mem_of_getElem? found)

/-- After a load, an entry fires if it is called, unless it may fire once only and has. -/
theorem mem_fired_found {text : String} {g : Game} {x : Slot} {e : Gated Unit}
    (stored : (g.load text).value.script.stored? x = some e) (past : List World) (w : World) :
    x ∈ ((g.load text).value.found o past w).fired o ↔
      ((g.load text).value.found o past w).Calls o x ∧
        ¬(e.use.reusable = false ∧ FiredIn o past (g.load text).value x) := by
  obtain ⟨e', stored', _, _, spent'⟩ := ticks_stored? (o := o) past stored
  -- nothing is spent when the run begins, so what is spent has fired during the run
  have unspent := Untouched.stored?_unspent (g.load_untouched text) stored
  rw [unspent] at spent'
  simp only [Bool.false_eq_true, false_or] at spent'
  have here : ((g.load text).value.found o past w).script.stored? x = some e' := stored'
  rw [mem_fired, Calls, ← spent']
  simp only [here, Option.some.injEq, exists_eq_left', Bool.not_eq_true]
  constructor
  · intro h
    obtain ⟨processed, spent, due⟩ := h
    exact ⟨⟨processed, due⟩, spent⟩
  · intro h
    obtain ⟨⟨processed, due⟩, spent⟩ := h
    exact ⟨processed, spent, due⟩

/-- An entry that may fire once only fires on the first tick that calls it. -/
theorem mem_fired_once {text : String} {g : Game} {x : Slot} {e : Gated Unit}
    (stored : (g.load text).value.script.stored? x = some e) (once : e.use.reusable = false)
    (past : List World) (w : World) :
    x ∈ ((g.load text).value.found o past w).fired o ↔
      ((g.load text).value.found o past w).Calls o x ∧ ∀ earlier w' later,
        past = earlier ++ w' :: later → ¬((g.load text).value.found o earlier w').Calls o x := by
  rw [mem_fired_found stored past w]
  refine and_congr_right fun _ => ?_
  constructor
  · intro never earlier w' later whole calls
    -- had it not fired there, it would have fired before
    have before : ¬FiredIn o earlier (g.load text).value x := by
      intro h
      obtain ⟨first, w₁, between, rfl, fires⟩ := h
      exact never ⟨once, first, w₁, between ++ w' :: later, by rw [whole, List.append_assoc]; rfl,
        fires⟩
    have fires := (mem_fired_found stored earlier w').2 ⟨calls, fun h => before h.2⟩
    exact never ⟨once, earlier, w', later, whole, fires⟩
  · intro uncalled h
    obtain ⟨_, earlier, w', later, whole, fires⟩ := h
    exact uncalled earlier w' later whole (calls_of_mem_fired fires)

/-- What a tick that is not skipped does to the verdicts. -/
theorem mem_judged_tick {g : Game} (processed : g.isOver o = false) (v : Verdict) (p : Nat) :
    p ∈ (g.tick o).value.world.judged v ↔ p ∈ g.world.judged v ∨ g.world.network = false ∧
      p = g.world.myPlayer ∧ ∃ id ∈ g.script.claims v,
        Script.conditionMet (swept g.world g.script.conditions) id = true := by
  rw [tick_of_processed processed, (g.script.turn_eq_visitTurn g.world).2]
  have frame := g.script.visitTurn_frame g.world
  have network : (g.script.visitTurn g.world).world.network = g.world.network :=
    congrArg Frame.network frame
  have myPlayer : (g.script.visitTurn g.world).world.myPlayer = g.world.myPlayer :=
    congrArg Frame.myPlayer frame
  have judged : (g.script.visitTurn g.world).world.judged v = g.world.judged v := by
    cases v with
    | win => exact congrArg Frame.won frame
    | lose => exact congrArg Frame.lost frame
  have claims : (g.script.visitTurn g.world).script.claims v = g.script.claims v := by
    rw [Script.visitTurn_script]
    cases v <;> rfl
  have conditions : (g.script.visitTurn g.world).script.conditions =
      swept g.world g.script.conditions := by
    rw [Script.visitTurn_script]
    rfl
  refine (mem_judged_giveVerdicts _ _ v p).trans ?_
  rw [network, myPlayer, judged, claims, conditions]

/-- **When stored entries fire.** Let a script be loaded and ticked in any worlds `past`,
    and then in `w`. If this tick is not skipped, the entries that fire on it, visited one
    by one in the store as it stands, are in order those which the sweep of the tick finds
    due and which are not spent; after them, this machine's player wins or loses exactly
    if the game is not played over a network and a condition for it is met. A reusable
    entry fires on each tick that calls it; any other fires on the first and never again. -/
theorem stored_entries_fire (o : Options) (text : String) (g : Game) (past : List World)
    (w : World) :
    let loaded := (g.load text).value
    let now := loaded.found o past w
    let next := (now.tick o).value
    let visits := now.script.visitTurn w
    (now.isOver o = false →
      next.script.conditions = swept w now.script.conditions ∧
      now.fired o = (now.script.sweptIn w).firing ∧
      (∀ x, x ∈ now.fired o ↔ ∃ e, now.script.stored? x = some e ∧ e.use.spent = false ∧
        Script.due next.script.conditions e.condition = true) ∧
      next.script = visits.script ∧
      next.world = (visits.script.giveVerdicts visits.world).value ∧
      ∀ v p, p ∈ next.world.judged v ↔ p ∈ w.judged v ∨ w.network = false ∧ p = w.myPlayer ∧
        ∃ id ∈ now.script.claims v, Script.conditionMet next.script.conditions id = true) ∧
    (now.isOver o = true → now.fired o = [] ∧ next = now) ∧
    ∀ x e, loaded.script.stored? x = some e →
      (e.use.reusable = true → (x ∈ now.fired o ↔ now.Calls o x)) ∧
      (e.use.reusable = false → (x ∈ now.fired o ↔ now.Calls o x ∧ ∀ earlier w' later,
        past = earlier ++ w' :: later → ¬(loaded.found o earlier w').Calls o x)) := by
  intro loaded now next visits
  refine ⟨fun processed => ?_, fun ended => ?_, fun x e stored => ⟨fun again => ?_, fun once => ?_⟩⟩
  · have conditions : next.script.conditions = swept w now.script.conditions := by
      rw [tick_conditions, processed]
      rfl
    have turn := now.script.turn_eq_visitTurn w
    have whole : next = { now with script := visits.script
                                   world := (visits.script.giveVerdicts visits.world).value } := by
      refine (tick_of_processed processed).trans ?_
      rw [show now.world = w from rfl, turn.2]
    refine ⟨conditions, ?_, fun x => ?_, ?_, ?_, fun v p => ?_⟩
    · rw [fired, if_neg (by simp [processed])]
      exact turn.1
    · rw [mem_fired, conditions]
      simp only [processed, true_and]
      rfl
    · rw [whole]
    · rw [whole]
    · rw [conditions]
      exact mem_judged_tick processed v p
  · refine ⟨?_, tick_of_over ended⟩
    rw [fired, if_pos ended]
  · refine (mem_fired_found stored past w).trans ?_
    simp only [again, Bool.true_eq_false, false_and, not_false_eq_true, and_true]
    exact Iff.rfl
  · exact mem_fired_once stored once past w

/-- An effect that has fired does not fire again when its condition comes back. -/
theorem fires_on_first_call :
    let loaded := (load "IF(PLAYER0,MONEY >= 100)\nSET_FLAG(PLAYER0,FLAG0,1)\nENDIF\n" default).value
    let rich := World.fresh.onDungeon 0 fun d => { d with gold := 100 }
    .effect 0 ∈ (loaded.found .usual [] rich).fired .usual ∧
      .effect 0 ∉ (loaded.found .usual [rich, .fresh] rich).fired .usual := by
  intro loaded rich
  have stored : loaded.script.stored? (.effect 0) = some ⟨some 0, .once, ()⟩ := by decide +kernel
  have called : (loaded.found .usual [] rich).Calls .usual (.effect 0) :=
    ⟨by decide +kernel, ⟨some 0, .once, ()⟩, stored, by decide +kernel⟩
  have first := (stored_entries_fire .usual _ default [] rich).2.2 (.effect 0) _ stored
  have third := (stored_entries_fire .usual _ default [rich, .fresh] rich).2.2 (.effect 0) _ stored
  constructor
  · refine (first.2 rfl).2 ⟨called, fun earlier w' later whole => ?_⟩
    cases earlier <;> cases whole
  · intro fires
    exact ((third.2 rfl).1 fires).2 [] rich [.fresh] rfl called

end Game

end DungeonScript
