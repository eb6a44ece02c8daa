import DungeonScript.Game.Playing
import DungeonScript.Proofs.Game.Nesting
import DungeonScript.Proofs.Script.Sweep

/-!
Reachable games. A game is made fresh, loads scripts and ticks, and between any two of
these steps the world around it may change in any way (`Reachable`). In all games
reached this way a condition comes after the one around it, since a block is opened
inside the blocks that are open already; so `sweep_settles` can say of all of them what
a sweep finds met. A script that has just been loaded is `Untouched`: no condition of
it has been asked and no entry has fired.
-/

namespace DungeonScript

/-! ## Parents come first -/

namespace Game

theorem WellNested.condition?_lt {g : Game} (nested : g.WellNested) {id : Nat}
    (h : g.progress.condition? = some id) : id < g.script.conditions.length := by
  obtain ⟨dropped, ids, stacked⟩ := nested
  cases dropped with
  | zero =>
    rw [stacked.condition?_eq] at h
    exact stacked.bound id (List.mem_of_mem_head? h)
  | succ n =>
    have blocks := stacked.blocks
    rw [List.replicate_succ, List.cons_append] at blocks
    simp [Progress.condition?, blocks] at h

theorem ParentsFirst.append {p : Progress} {conditions : List Condition}
    (first : ParentsFirst conditions)
    (bound : ∀ id, p.condition? = some id → id < conditions.length) (new : List (Selector × Test)) :
    ParentsFirst (conditions ++ new.map p.opening) := by
  intro i c parent found inside
  by_cases hi : i < conditions.length
  · rw [List.getElem?_append_left hi] at found
    exact first i c parent found inside
  · have hi := Nat.le_of_not_lt hi
    rw [List.getElem?_append_right hi, List.getElem?_map] at found
    obtain ⟨asked, _, rfl⟩ := Option.map_eq_some_iff.1 found
    exact Nat.lt_of_lt_of_le (bound parent inside) hi

theorem loadLines_parentsFirst (pass : Pass) (lines : List (Nat × List Char)) {g : Game}
    (nested : g.WellNested) (first : ParentsFirst g.script.conditions) :
    ParentsFirst (loadLines pass lines g).value.script.conditions := by
  -- that parents come first is kept because the open blocks are nested, so both are kept together
  refine (loadLines_keeps (P := fun h => h.WellNested ∧ ParentsFirst h.script.conditions) ?_ lines
    ⟨nested, first⟩).2
  intro line h both
  obtain ⟨nested, first⟩ := both
  obtain ⟨new, conditions, _⟩ := (loadLine_stores pass line h).conditions
  refine ⟨loadLine_wellNested pass line nested, ?_⟩
  rw [conditions]
  exact ParentsFirst.append first (fun _ => nested.condition?_lt) new

end Game

/-! ## A script that has just been loaded -/

/-- No condition has been asked, and no entry has fired for good. -/
structure Untouched (s : Script) : Prop where
  conditions : ∀ c ∈ s.conditions, c.status = .unasked
  spawns : ∀ e ∈ s.spawns, e.use.spent = false
  tunnellers : ∀ e ∈ s.tunnellers, e.use.spent = false
  effects : ∀ e ∈ s.effects, e.use.spent = false

theorem Progress.Adds.forall {α β : Type} {p : Progress} {make : β → α} {xs xs' : List α}
    {P : α → Prop} (h : p.Adds make xs xs') (hold : ∀ x ∈ xs, P x) (hnew : ∀ b, P (make b)) :
    ∀ x ∈ xs', P x := by
  obtain ⟨new, rfl, _⟩ := h
  intro x hx
  rcases List.mem_append.1 hx with hx | hx
  · exact hold x hx
  · obtain ⟨b, _, rfl⟩ := List.mem_map.1 hx
    exact hnew b

theorem Progress.gate_unspent {α : Type} (p : Progress) (item : α) :
    (p.gate item).use.spent = false := by
  unfold Progress.gate
  cases p.reusable with
  | true => rfl
  | false => rfl

theorem Stores.untouched {p : Progress} {s s' : Script} (h : Stores p s s')
    (untouched : Untouched s) : Untouched s' where
  conditions := h.conditions.forall untouched.conditions fun _ => rfl
  spawns := h.spawns.forall untouched.spawns p.gate_unspent
  tunnellers := h.tunnellers.forall untouched.tunnellers p.gate_unspent
  effects := h.effects.forall untouched.effects p.gate_unspent

namespace Game

theorem loadLines_untouched (pass : Pass) (lines : List (Nat × List Char)) {g : Game}
    (untouched : Untouched g.script) : Untouched (loadLines pass lines g).value.script :=
  loadLines_keeps (P := fun h => Untouched h.script)
    (fun line h => (loadLine_stores pass line h).untouched) lines untouched

theorem reportIf_script (c : Bool) (r : Remark) (g : Game) :
    (g.reportIf c r).value.script = g.script := by
  cases c <;> rfl

/-- Summing up a script does not change it. -/
theorem load_script (text : String) (g : Game) : (g.load text).value.script =
    (loadLines .full (scriptLines text) g.cleared).value.script := by
  show (sumUp _).value.script = _
  unfold sumUp
  exact (reportIf_script _ _ _).trans (reportIf_script _ _ _)

theorem load_untouched (text : String) (g : Game) : Untouched (g.load text).value.script := by
  rw [load_script]
  apply loadLines_untouched
  constructor <;> exact fun _ h => absurd h List.not_mem_nil

theorem load_parentsFirst (text : String) (g : Game) :
    ParentsFirst (g.load text).value.script.conditions := by
  rw [load_script]
  apply loadLines_parentsFirst .full _ g.cleared_wellNested
  intro i c p found
  cases found

/-! ## Reachable games -/

/-- A game that was made fresh, loaded scripts and ticked, in a world that changed between
    the steps in any way. -/
inductive Reachable : Game → Prop where
  | fresh (o : Options) (w : World) : Reachable (.fresh o w)
  | visited {g : Game} (w : World) (reached : Reachable g) : Reachable { g with world := w }
  | preloaded {g : Game} (text : String) (reached : Reachable g) : Reachable (g.preload text).value
  | loaded {g : Game} (text : String) (reached : Reachable g) : Reachable (g.load text).value
  | ticked {g : Game} (o : Options) (reached : Reachable g) : Reachable (g.tick o).value

/-- A tick sweeps the conditions and fires what is due then, unless the game is over. -/
theorem tick_script (o : Options) (g : Game) : (g.tick o).value.script =
    if g.isOver o then g.script
    else g.script.afterSweep (swept g.world g.script.conditions) := by
  unfold tick
  split <;> rfl

theorem tick_conditions (o : Options) (g : Game) : (g.tick o).value.script.conditions =
    if g.isOver o then g.script.conditions else swept g.world g.script.conditions := by
  rw [tick_script]
  split <;> rfl

/-- In every reachable game a condition comes after the one around it. -/
theorem Reachable.parentsFirst {g : Game} (h : g.Reachable) : ParentsFirst g.script.conditions := by
  induction h with
  | fresh o w =>
    intro i c p found
    cases found
  | visited w _ ih => exact ih
  | @preloaded g text _ ih =>
    exact loadLines_parentsFirst .preload _ ⟨0, [], Stacked.nil _⟩ ih
  | @loaded g text _ _ => exact load_parentsFirst text g
  | @ticked g o _ ih =>
    rw [tick_conditions]
    split
    · exact ih
    · exact ih.swept g.world

/-- **A sweep settles the conditions.** In every reachable game and every world, a sweep
    leaves a condition met exactly if its own test and those of all conditions around it
    hold in that world, whatever their status was before. After a load, a condition was
    met exactly if one of the sweeps since then left it met. -/
theorem sweep_settles {g : Game} (reachable : g.Reachable) (w : World) :
    (∀ id, Script.conditionMet (swept w g.script.conditions) id = true ↔
      ∀ outer, Around g.script.conditions id outer → HoldsAt w g.script.conditions outer) ∧
    (∀ conditions : List Condition,
      conditions.map (·.question) = g.script.conditions.map (·.question) →
      ∀ id, Script.conditionMet (swept w conditions) id =
        Script.conditionMet (swept w g.script.conditions) id) ∧
    (∀ (text : String) (worlds : List World) (id : Nat),
      everMet (sweeps worlds (g.load text).value.script.conditions) id = true ↔
        ∃ n < worlds.length, Script.conditionMet
          (sweeps (worlds.take (n + 1)) (g.load text).value.script.conditions) id = true) := by
  have first := reachable.parentsFirst
  refine ⟨conditionMet_swept_iff first w,
    fun conditions same => conditionMet_swept_congr first same w, fun text worlds id => ?_⟩
  have unasked : everMet (g.load text).value.script.conditions id = false := by
    unfold everMet
    split
    · rename_i c found
      rw [(g.load_untouched text).conditions c (List.mem_of_getElem? found)]
      rfl
    · rfl
  rw [everMet_sweeps worlds (load_parentsFirst text g) id, unasked]
  simp only [Bool.false_eq_true, false_or]

/-- A condition that holds from the first turn on, and one inside it that does not. -/
theorem sweep_settles_nested :
    let g := (load "IF(ALL_PLAYERS,GAME_TURN >= 0)\nIF(PLAYER0,MONEY >= 100)\nENDIF\nENDIF\n"
      (.fresh .usual .fresh)).value
    Script.conditionMet (swept .fresh g.script.conditions) 0 = true ∧
      ¬∀ outer, Around g.script.conditions 1 outer → HoldsAt .fresh g.script.conditions outer := by
  intro g
  have settled := sweep_settles (.loaded _ (.fresh .usual .fresh) : g.Reachable) .fresh
  refine ⟨by decide +kernel, fun all => ?_⟩
  have met := (settled.1 1).2 all
  revert met
  decide +kernel

end Game

end DungeonScript
