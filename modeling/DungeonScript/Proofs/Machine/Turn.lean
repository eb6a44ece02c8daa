import DungeonScript.Proofs.Machine.Changing

/-!
The machine has a turn of the script. Conditions and stored entries are gone through by number, and
each is looked up and put back in the list as it stands at that moment. A measure is read off a
dungeon, and the machine counts how often a dungeon has been read.

That count is the one operation of a turn that can run out, however sound the world is: nothing
bounds how often a script has its turn. What can only fail because of it is stated with `counting`,
and such statements compose: a later count is at least as large as an earlier one.
-/

namespace DungeonScript

open World

namespace Machine

variable {w : World} {α β : Type}

/-! ## Counting -/

/-- The result `a`, unless a count has come to `n` and does not fit. -/
def counting (n : Nat) (a : α) : Checked α := (fun _ => a) <$> counter n

theorem counting_eq {n : Nat} (fits : n < counterEnd) (a : α) : counting n a = .ok a := by
  unfold counting
  rw [counter_eq fits]
  rfl

theorem counting_full {n : Nat} (full : counterEnd ≤ n) (a : α) :
    counting n a = .error .overflow := by
  unfold counting counter
  rw [if_neg (Nat.not_lt_of_le full)]
  rfl

theorem counter_bind (n : Nat) (f : Nat → α) :
    (counter n >>= fun n => pure (f n)) = counting n (f n) := by
  unfold counting counter
  split <;> rfl

@[simp] theorem counting_map (n : Nat) (a : α) (f : α → β) :
    (counting n a >>= fun a => pure (f a)) = counting n (f a) := by
  unfold counting counter
  split <;> rfl

theorem counting_bind {n m : Nat} {a : α} {b : β} {f : α → Checked β} (more : n ≤ m)
    (next : n < counterEnd → f a = counting m b) : counting n a >>= f = counting m b := by
  by_cases fits : n < counterEnd
  · rw [counting_eq fits, ok_bind, next fits]
  · -- the first count fails already, and with the same crash
    have beyond : ¬m < counterEnd := fun fits' => fits (Nat.lt_of_le_of_lt more fits')
    unfold counting counter
    rw [if_neg fits, if_neg beyond]
    rfl

/-! ## Asking -/

/-- A world in which no measure is out of range. -/
structure Readable (w : World) : Prop where
  sound : w.Sound
  turn : w.turn < 9223372036854775808

def measure (w : World) (player : Nat) (what : Measure) (index : Nat) : Checked Int := do
  let p ← slot playerCount player
  let d := w.dungeon p
  match what with
  | .totalCreatures => signed (d.creatures - d.uncounted)
  | .totalResearch => quotient d.researchPoints 256
  | .timer =>
    let i ← wrapped timerCount index
    let t := d.timers.get i
    if t.running then signed (signedCount w.turn - signedCount t.started) else pure 0
  | .flag => return d.flags.get (← wrapped flagCount index)
  | .availableMagic => return d.powerLevel.get (← wrapped powerTypes index)
  | .availableTrap => return d.trapAmount.get (← wrapped trapTypes index)
  | .availableDoor => return d.doorAmount.get (← wrapped doorTypes index)
  | .availableRoom => return d.roomBuildable.get (← wrapped roomTypes index)
  | .allDungeonsDestroyed =>
    let keepers ← firstPlayers heroes.val
    return truth (keepers.all fun q => q == p || (w.dungeon q).heartDestroyed)
  | _ => return w.measure p what index

theorem quotient_eq {a b : Int} (h : 0 < b) : quotient a b = .ok (a.tdiv b) := by
  unfold quotient
  rw [if_neg (by omega), if_neg (by omega)]

theorem measure_eq (readable : Readable w) (p : Player) (what : Measure) (index : Nat) :
    measure w p.val what index = .ok (w.measure p what index) := by
  unfold measure
  rw [slot_val, ok_bind]
  cases what with
  | totalCreatures =>
    have bounds := creatures_bounds readable.sound p
    have all : (w.dungeon p).uncounted = 0 := congrArg Prod.snd (readable.sound.counted p)
    exact signed_eq (inRange_iff.2 (by omega))
  | totalResearch => exact quotient_eq (by decide)
  | timer =>
    simp only [wrapped_eq timerCount_pos, ok_bind]
    show _ = Except.ok (w.timerTurns ((w.dungeon p).timers.get (slotOf timerCount_pos index)))
    have set : ((w.dungeon p).timers.get (slotOf timerCount_pos index)).started ≤ w.turn :=
      readable.sound.timed p _ _
    generalize (w.dungeon p).timers.get (slotOf timerCount_pos index) = t at set ⊢
    have now := readable.turn
    unfold World.timerTurns
    split
    · rw [signedCount_eq now, signedCount_eq (Nat.lt_of_le_of_lt set now)]
      have elapsed : InRange ((w.turn : Int) - t.started) := inRange_iff.2 (by omega)
      exact signed_eq elapsed
    · rfl
  | flag => exact wrapped_bind flagCount_pos index _
  | availableMagic => exact wrapped_bind powerTypes_pos index _
  | availableTrap => exact wrapped_bind trapTypes_pos index _
  | availableDoor => exact wrapped_bind doorTypes_pos index _
  | availableRoom => exact wrapped_bind roomTypes_pos index _
  | allDungeonsDestroyed =>
    simp only [firstPlayers_heroes]
    rfl
  | _ => rfl

/-- Whether a player satisfies a test; `readings` have been taken before. -/
def satisfies (w : World) (t : Test) (player readings : Nat) : Checked (Bool × Nat) :=
  match t with
  | .measure what index comparison value => do
    let readings ← counter (readings + 1)
    let v ← measure w player what index
    return (comparison.holds v value, readings)
  | .entered number => pure (w.enteredBy number player, readings)

def ask (w : World) (t : Test) : List Nat → Nat → Checked (Bool × Nat)
  | [], readings => pure (false, readings)
  | p :: rest, readings => do
    let (holds, readings) ← satisfies w t p readings
    if holds then return (true, readings) else ask w t rest readings

theorem satisfies_eq (readable : Readable w) (t : Test) (p : Player) {readings : Nat}
    (fits : readings < counterEnd) :
    satisfies w t p.val readings = counting (readings + readingsPerPlayer t)
      (w.satisfies t p, readings + readingsPerPlayer t) := by
  cases t with
  | measure what index comparison value =>
    unfold satisfies
    simp only [measure_eq readable, ok_bind]
    exact counter_bind (readings + 1) fun n => (comparison.holds (w.measure p what index) value, n)
  | entered number => exact (counting_eq fits _).symm

theorem ask_eq (readable : Readable w) (t : Test) (players : List Player) {readings : Nat}
    (fits : readings < counterEnd) :
    ask w t (players.map Fin.val) readings = counting (readings + (w.ask t players).2)
      ((w.ask t players).1, readings + (w.ask t players).2) := by
  induction players generalizing readings with
  | nil => exact (counting_eq fits _).symm
  | cons p rest ih =>
    rw [List.map_cons, ask, satisfies_eq readable t p fits, World.ask]
    cases w.satisfies t p with
    | true => exact counting_bind (Nat.le_refl _) fun fits => (counting_eq fits _).symm
    | false =>
      simp only [Bool.false_eq_true, if_false, ← Nat.add_assoc]
      exact counting_bind (Nat.le_add_right _ _) ih

/-! ## The sweep -/

def statusOf (w : World) (conditions : List Condition) (c : Condition) (readings : Nat) :
    Checked (Status × Nat) :=
  if Script.due conditions c.parent then do
    let (holds, readings) ← ask w c.test (players heroes.val c.players) readings
    return (c.status.asked holds, readings)
  else pure (c.status.passedOver, readings)

/-- The conditions of these numbers are asked again. -/
def sweepFrom (w : World) : List Nat → List Condition → Nat → Checked (List Condition × Nat)
  | [], conditions, readings => pure (conditions, readings)
  | i :: rest, conditions, readings => do
    let c ← found conditions[i]?
    let (status, readings) ← statusOf w conditions c readings
    let conditions ← setAt conditions i { c with status }
    sweepFrom w rest conditions readings

theorem statusOf_eq (readable : Readable w) (before after : List Condition) (c : Condition)
    {readings : Nat} (fits : readings < counterEnd) :
    let swept := (c.sweep w before after).value
    statusOf w (before ++ c :: after) c readings =
      counting (readings + swept.2) (swept.1.status, readings + swept.2) := by
  simp only [Condition.sweep_value, Condition.sweep_readings]
  unfold statusOf Condition.settled
  rw [players_eq]
  cases Script.due (before ++ c :: after) c.parent with
  | true =>
    have asked := ask_eq readable c.test c.players.asked fits
    show ask w c.test (c.players.asked.map Fin.val) readings >>= _ = _
    rw [asked]
    exact counting_map _ _ fun a : Bool × Nat => (c.status.asked a.1, a.2)
  | false => exact (counting_eq fits _).symm

/-- A sweep takes readings one after the other. -/
theorem le_sweepAfter (w : World) : ∀ (rest before : List Condition) (n : Nat),
    n ≤ (sweepAfter w before n rest).value.readings
  | [], _, _ => Nat.le_refl _
  | _ :: rest, _, _ => Nat.le_trans (Nat.le_add_right _ _) (le_sweepAfter w rest _ _)

/-- The list holds the conditions that were swept before those that were not. -/
theorem sweepFrom_eq (readable : Readable w) (base : Nat) :
    ∀ (rest before : List Condition) (n : Nat), base + n < counterEnd →
    let swept := (sweepAfter w before n rest).value
    sweepFrom w (List.range' before.length rest.length) (before ++ rest) (base + n) =
      counting (base + swept.readings) (swept.conditions, base + swept.readings)
  | [], before, n, fits => by
    rw [List.append_nil]
    exact (counting_eq fits _).symm
  | c :: rest, before, n, fits => by
    have status := statusOf_eq readable before rest c fits
    have same : { c with status := (c.sweep w before rest).value.1.status } =
        (c.sweep w before rest).value.1 := by
      rw [Condition.sweep_value]
      rfl
    rw [List.length_cons, List.range'_succ, sweepFrom, found_append, ok_bind, sweepAfter,
      Logged.value_bind]
    generalize (c.sweep w before rest).value = swept at status same ⊢
    obtain ⟨c', k⟩ := swept
    have later := sweepFrom_eq readable base rest (before ++ [c']) (n + k)
    rw [List.length_append, List.append_assoc, ← Nat.add_assoc] at later
    rw [status]
    refine counting_bind ?_ fun fits => ?_
    · exact Nat.add_assoc base n k ▸ Nat.add_le_add_left (le_sweepAfter w rest _ _) base
    · simp only [same, setAt_append, ok_bind]
      exact later fits

def sweep (w : World) (conditions : List Condition) : Checked (List Condition × Nat) :=
  sweepFrom w (List.range conditions.length) conditions w.readings

theorem sweep_eq (readable : Readable w) (conditions : List Condition)
    (fits : w.readings < counterEnd) :
    let swept := (DungeonScript.sweep w conditions).value
    sweep w conditions =
      counting (w.readings + swept.readings) (swept.conditions, w.readings + swept.readings) := by
  unfold sweep
  rw [List.range_eq_range']
  exact sweepFrom_eq readable w.readings conditions [] 0 fits

/-! ## Firing -/

/-- The entries of these numbers fire, if they are due. -/
def fireFrom (act : α → World → Checked World) (conditions : List Condition) :
    List Nat → List (Gated α) → World → Checked (List (Gated α) × World)
  | [], entries, w => pure (entries, w)
  | i :: rest, entries, w => do
    let e ← found entries[i]?
    if e.fires conditions then
      let w ← act e.item w
      let entries ← setAt entries i e.afterFiring
      fireFrom act conditions rest entries w
    else fireFrom act conditions rest entries w

def fire (act : α → World → Checked World) (conditions : List Condition)
    (entries : List (Gated α)) (w : World) : Checked (List (Gated α) × World) :=
  fireFrom act conditions (List.range entries.length) entries w

section Firing

variable {act : α → World → Checked World} {f : α → World → Logged World}
  (changes : ∀ a w, Changes w (f a w).value)
  (each : ∀ a {w : World}, w.Sound → act a w = .ok (f a w).value)
include changes each

/-- The list holds the entries that were visited before those that were not. -/
theorem fireFrom_eq (conditions : List Condition) : ∀ (rest before : List (Gated α)) {w : World},
    w.Sound →
    fireFrom act conditions (List.range' before.length rest.length) (before ++ rest) w =
      .ok (before ++ rest.map (·.afterTurn conditions), (Gated.fireAll conditions f rest w).value)
  | [], before, _, _ => rfl
  | e :: rest, before, w, sound => by
    rw [List.length_cons, List.range'_succ, fireFrom, found_append, ok_bind, List.map_cons]
    rw [Gated.fireAll]
    unfold Gated.afterTurn
    split
    · have visited := fireFrom_eq conditions rest (before ++ [e.afterFiring])
        ((changes e.item w).sound sound)
      rw [List.length_append, List.append_assoc, List.append_assoc] at visited
      rw [each e.item sound, ok_bind, setAt_append, ok_bind]
      exact visited
    · have visited := fireFrom_eq conditions rest (before ++ [e]) sound
      rw [List.length_append, List.append_assoc, List.append_assoc] at visited
      exact visited

theorem fire_eq (conditions : List Condition) (entries : List (Gated α)) {w : World}
    (sound : w.Sound) :
    fire act conditions entries w = .ok (entries.map (·.afterTurn conditions),
      (Gated.fireAll conditions f entries w).value) := by
  unfold fire
  rw [List.range_eq_range']
  exact fireFrom_eq changes each conditions entries [] sound

end Firing

/-! ## The turn -/

def turn (s : Script) (w : World) : Checked (Script × World) := do
  let (conditions, readings) ← sweep w s.conditions
  let w := { w with readings }
  let (spawns, w) ← fire (spawn s.parties) conditions s.spawns w
  let (tunnellers, w) ← fire (sendOut s.parties) conditions s.tunnellers w
  let (effects, w) ← fire (applyEffect s) conditions s.effects w
  let s := { s with conditions, spawns, tunnellers, effects }
  return (s, (s.giveVerdicts w).value)

theorem readings_turn (s : Script) (w : World) : (s.turn w).value.2.readings =
    w.readings + (DungeonScript.sweep w s.conditions).value.readings := by
  have verdict (w : World) (v : Verdict) (p : Nat) : (w.pronounce v p).readings = w.readings := by
    cases v <;> simp only [World.pronounce] <;> split <;> rfl
  rw [(s.turn_eq_visitTurn w).2]
  exact (giveVerdicts_keeps verdict _ _).trans (congrArg Frame.readings (s.visitTurn_frame w))

/-- A turn of a script crashes only if its readings cannot be counted. -/
theorem turn_eq (s : Script) (readable : Readable w) (fits : w.readings < counterEnd) :
    turn s w = counting (s.turn w).value.2.readings (s.turn w).value := by
  rw [readings_turn]
  unfold turn
  rw [sweep_eq readable s.conditions fits]
  refine counting_bind (Nat.le_refl _) fun fits => ?_
  rw [counting_eq fits]
  -- the world after the sweep, the spawns and the tunnellers
  let swept := (DungeonScript.sweep w s.conditions).value
  let w₁ := w.countReadings swept.readings
  let w₂ := (Gated.fireAll swept.conditions (World.spawn s.parties) s.spawns w₁).value
  let w₃ := (Gated.fireAll swept.conditions (World.sendOut s.parties) s.tunnellers w₂).value
  have counts : Changes w w₁ := changes_of_core rfl
  have spawns : Changes w₁ w₂ := fireAll_changes _ (World.spawn_changes s.parties) _ _
  have tunnellers : Changes w₂ w₃ := fireAll_changes _ (World.sendOut_changes s.parties) _ _
  have sound₁ := counts.sound readable.sound
  have sound₂ := spawns.sound sound₁
  have sound₃ := tunnellers.sound sound₂
  have spawned := fire_eq (World.spawn_changes s.parties) (fun a w => spawn_eq s.parties a)
    swept.conditions s.spawns sound₁
  have sent := fire_eq (World.sendOut_changes s.parties) (fun a w => sendOut_eq s.parties a)
    swept.conditions s.tunnellers sound₂
  have affected := fire_eq (Effect.apply_changes s)
    (fun a w sound => applyEffect_eq s a sound) swept.conditions s.effects sound₃
  show fire (spawn s.parties) swept.conditions s.spawns w₁ >>= _ = _
  rw [spawned, ok_bind]
  show fire (sendOut s.parties) swept.conditions s.tunnellers w₂ >>= _ = _
  rw [sent, ok_bind]
  show fire (applyEffect s) swept.conditions s.effects w₃ >>= _ = _
  rw [affected]
  rfl

end Machine

end DungeonScript
