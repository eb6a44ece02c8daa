import DungeonScript.Proofs.Machine.Turn
import DungeonScript.Proofs.Script.Sweep
import Mathlib.Algebra.GroupWithZero.Nat

/-!
What a sweep reads. A condition on a measure reads the dungeons of the players it asks, one after
the other, and stops with the first who satisfies it (`tried`). A condition on an action point
reads no dungeon, and a condition that is passed over reads nothing at all (`Condition.reads`).
Whether a condition is passed over is settled by the conditions as the sweep leaves them, so the
readings of a sweep can be told from its result (`sweep_readings`).

The sweep counts its readings as it goes and the world is told of them afterwards. `sweepReading`
is the same sweep in a world that counts each reading as it is taken (`World.read`); it comes to
the same conditions and the same count (`sweepReading_eq`).
-/

namespace DungeonScript

namespace World

/-! ## Asking -/

/-- The players who are tried: those asked, up to the first who satisfies the test. -/
def tried (w : World) (t : Test) (players : List Player) : List Player :=
  players.take (players.findIdx (w.satisfies t) + 1)

theorem tried_cons (w : World) (t : Test) (p : Player) (rest : List Player) :
    w.tried t (p :: rest) = p :: if w.satisfies t p then [] else w.tried t rest := by
  unfold tried
  rw [List.findIdx_cons]
  cases w.satisfies t p with
  | true => simp
  | false => simp

/-- Asking takes as many readings as players are tried, if the test is on a measure. -/
theorem ask_readings (w : World) (t : Test) (players : List Player) :
    (w.ask t players).2 = (w.tried t players).length * readingsPerPlayer t := by
  induction players with
  | nil => simp [ask, tried]
  | cons p rest ih =>
    rw [ask, tried_cons]
    split
    · simp
    · simp only [ih, List.length_cons, Nat.succ_mul]
      exact Nat.add_comm _ _

/-- Of those asked, either one satisfies the test and is the last to be tried, or nobody does and
    all are tried. -/
theorem tried_cases (w : World) (t : Test) (players : List Player) :
    (∃ before p after, players = before ++ p :: after ∧ w.tried t players = before ++ [p] ∧
      w.satisfies t p = true ∧ ∀ q ∈ before, w.satisfies t q = false) ∨
    w.tried t players = players ∧ ∀ q ∈ players, w.satisfies t q = false := by
  induction players with
  | nil => exact .inr ⟨rfl, nofun⟩
  | cons p rest ih =>
    rw [tried_cons]
    cases holds : w.satisfies t p with
    | true => exact .inl ⟨[], p, rest, rfl, rfl, holds, nofun⟩
    | false =>
      rcases ih with ⟨before, q, after, same, tried, last, others⟩ | ⟨all, none⟩
      · refine .inl ⟨p :: before, q, after, by rw [same]; rfl, ?_, last, ?_⟩
        · simp only [Bool.false_eq_true, if_false, tried, List.cons_append]
        · exact List.forall_mem_cons.2 ⟨holds, others⟩
      · refine .inr ⟨?_, List.forall_mem_cons.2 ⟨holds, none⟩⟩
        simp only [Bool.false_eq_true, if_false, all]

end World

/-- The players a condition asks are asked in the order of their slots. -/
theorem Selector.asked_increasing (s : Selector) : s.asked.Pairwise (· < ·) :=
  List.Pairwise.filter _ (List.pairwise_lt_finRange playerCount)

/-! ## One sweep -/

/-- The players whose dungeons a condition reads, in order, `met` telling what the sweep found. -/
def Condition.reads (w : World) (met : List Condition) (c : Condition) : List Player :=
  match c.test with
  | .entered _ => []
  | .measure _ _ _ _ => if Script.due met c.parent then w.tried c.test c.players.asked else []

theorem Condition.length_reads (w : World) (met : List Condition) (c : Condition) :
    (c.reads w met).length =
      if Script.due met c.parent then (w.ask c.test c.players.asked).2 else 0 := by
  unfold Condition.reads
  rw [World.ask_readings]
  cases c.test with
  | entered number => simp [World.readingsPerPlayer]
  | measure what index comparison value =>
    simp only [World.readingsPerPlayer, Nat.mul_one]
    split <;> rfl

/-- Whether a condition is due as it is swept can be told from what the sweep leaves. -/
theorem due_sweepAfter (w : World) {before rest : List Condition} {c : Condition} (readings : Nat)
    (first : ParentsFirst (before ++ c :: rest)) :
    Script.due (sweepAfter w before readings (c :: rest)).value.conditions c.parent =
      Script.due (before ++ c :: rest) c.parent := by
  -- the condition around `c` has been swept already
  have parent : ∀ p, c.parent = some p → p < before.length := by
    intro p inside
    refine first before.length c p ?_ inside
    rw [List.getElem?_append_right (Nat.le_refl _), Nat.sub_self]
    rfl
  rw [sweepAfter_eq w (c :: rest) before readings first, due_append_left parent,
    due_append_left parent]

theorem sweepAfter_readings (w : World) : ∀ (rest before : List Condition) (readings : Nat),
    ParentsFirst (before ++ rest) →
    (sweepAfter w before readings rest).value.readings = readings + (rest.map fun c =>
      (c.reads w (sweepAfter w before readings rest).value.conditions).length).sum
  | [], _, _, _ => rfl
  | c :: rest, before, readings, first => by
    have due := due_sweepAfter w readings first
    have later := sweepAfter_readings w rest
      (before ++ [c.settled w (Script.due (before ++ c :: rest) c.parent)])
      (readings + (c.sweep w before rest).value.2) (first.settle w _)
    have here : (c.sweep w before rest).value.2 =
        (c.reads w (sweepAfter w before readings (c :: rest)).value.conditions).length := by
      rw [Condition.sweep_readings, Condition.length_reads, due]
    rw [List.map_cons, List.sum_cons, ← here, ← Nat.add_assoc]
    simp only [sweepAfter, Logged.value_bind, Condition.sweep_value]
    exact later

/-- The readings of a sweep are those of its conditions. -/
theorem sweep_readings {conditions : List Condition} (first : ParentsFirst conditions) (w : World) :
    (sweep w conditions).value.readings =
      (conditions.map fun c => (c.reads w (swept w conditions)).length).sum := by
  have total := sweepAfter_readings w conditions [] 0 first
  rwa [Nat.zero_add] at total

/-! ## A sweep that reads one by one -/

namespace World

/-- Whether a player satisfies a test. A measure is read, and the world counts the reading. -/
def trying (t : Test) (p : Player) (w : World) : Bool × World :=
  match t with
  | .measure what index comparison value =>
    let r := w.read p what index
    (comparison.holds r.1 value, r.2)
  | .entered number => (w.enteredBy number p, w)

/-- Whether some player satisfies a test, and the world after the readings taken. -/
def asking (t : Test) : List Player → World → Bool × World
  | [], w => (false, w)
  | p :: rest, w =>
    let r := trying t p w
    if r.1 then (true, r.2) else asking t rest r.2

theorem trying_eq (t : Test) (p : Player) (w : World) :
    trying t p w = (w.satisfies t p, w.countReadings (readingsPerPlayer t)) := by
  cases t <;> rfl

theorem satisfies_countReadings (w : World) (n : Nat) (t : Test) (p : Player) :
    (w.countReadings n).satisfies t p = w.satisfies t p := by
  cases t with
  | entered number => rfl
  | measure what index comparison value => cases what <;> rfl

theorem countReadings_countReadings (w : World) (n m : Nat) :
    (w.countReadings n).countReadings m = w.countReadings (n + m) := by
  simp only [countReadings, Nat.add_assoc]

theorem ask_countReadings (w : World) (n : Nat) (t : Test) (players : List Player) :
    (w.countReadings n).ask t players = w.ask t players := by
  induction players with
  | nil => rfl
  | cons p rest ih => rw [ask, ask, satisfies_countReadings, ih]

theorem asking_eq (t : Test) (players : List Player) (w : World) :
    asking t players w = ((w.ask t players).1, w.countReadings (w.ask t players).2) := by
  induction players generalizing w with
  | nil => rfl
  | cons p rest ih =>
    rw [asking, trying_eq, ask]
    simp only
    split
    · rfl
    · rw [ih, ask_countReadings, countReadings_countReadings]

end World

/-- The conditions that follow those already swept, asked in a world that counts. -/
def sweepReadingAfter : List Condition → List Condition → World → List Condition × World
  | before, [], w => (before, w)
  | before, c :: rest, w =>
    if Script.due (before ++ c :: rest) c.parent then
      let r := World.asking c.test c.players.asked w
      sweepReadingAfter (before ++ [{ c with status := c.status.asked r.1 }]) rest r.2
    else sweepReadingAfter (before ++ [{ c with status := c.status.passedOver }]) rest w

/-- All conditions asked again, in a world that counts each reading as it is taken. -/
def sweepReading (conditions : List Condition) (w : World) : List Condition × World :=
  sweepReadingAfter [] conditions w

theorem sweepReadingAfter_eq (w : World) : ∀ (rest before : List Condition) (readings : Nat),
    let after := (sweepAfter w before readings rest).value
    sweepReadingAfter before rest (w.countReadings readings) =
      (after.conditions, w.countReadings after.readings)
  | [], _, _ => rfl
  | c :: rest, before, readings => by
    have later := sweepReadingAfter_eq w rest
      (before ++ [c.settled w (Script.due (before ++ c :: rest) c.parent)])
      (readings + (c.sweep w before rest).value.2)
    simp only [sweepAfter, Logged.value_bind, Condition.sweep_value]
    rw [← later, Condition.sweep_readings, sweepReadingAfter, World.asking_eq,
      World.ask_countReadings, World.countReadings_countReadings]
    unfold Condition.settled
    cases Script.due (before ++ c :: rest) c.parent <;> rfl

/-- Counting the readings as they are taken comes to the same as adding them up. -/
theorem sweepReading_eq (conditions : List Condition) (w : World) :
    sweepReading conditions w =
      (swept w conditions, w.countReadings (sweep w conditions).value.readings) :=
  sweepReadingAfter_eq w conditions [] 0

/-! ## A turn of a script -/

/-- **A sweep reads what it must.** Where every condition comes after the one around it, the
    readings of a sweep are those of its conditions, added up: this is what a world has counted
    that counts each reading as it is taken, and what a turn of the script adds to the count. A
    condition reads nothing if the one around it is not met by this sweep, nor if it is on an
    action point. Any other reads the dungeons of the players it asks in the order of their slots,
    one reading for each, up to and including the first who satisfies the comparison, or of all
    of them if nobody does. -/
theorem Script.sweep_reads_in_turn (s : Script) (w : World) (first : ParentsFirst s.conditions) :
    let after := swept w s.conditions
    let total := (s.conditions.map fun c => (c.reads w after).length).sum
    (sweep w s.conditions).value.readings = total ∧
    sweepReading s.conditions w = (after, w.countReadings total) ∧
    (s.turn w).value.2.readings = w.readings + total ∧
    ∀ c ∈ s.conditions,
      (Script.due after c.parent = false → c.reads w after = []) ∧
      (∀ number, c.test = .entered number → c.reads w after = []) ∧
      ∀ what index comparison value, c.test = .measure what index comparison value →
        Script.due after c.parent = true →
        let holds := fun p => comparison.holds (w.measure p what index) value
        c.players.asked.Pairwise (· < ·) ∧
        ((∃ before p later, c.players.asked = before ++ p :: later ∧
            c.reads w after = before ++ [p] ∧ holds p = true ∧ ∀ q ∈ before, holds q = false) ∨
          c.reads w after = c.players.asked ∧ ∀ q ∈ c.players.asked, holds q = false) := by
  intro after total
  have readings : (sweep w s.conditions).value.readings = total := sweep_readings first w
  refine ⟨readings, ?_, ?_, fun c _ => ⟨?_, ?_, ?_⟩⟩
  · rw [sweepReading_eq, readings]
  · rw [Machine.readings_turn, readings]
  · intro passedOver
    unfold Condition.reads
    rw [passedOver]
    cases c.test <;> rfl
  · intro number test
    unfold Condition.reads
    rw [test]
  · intro what index comparison value test due holds
    have reads : c.reads w after = w.tried c.test c.players.asked := by
      unfold Condition.reads
      rw [test, due]
      rfl
    have tried := w.tried_cases c.test c.players.asked
    rw [← reads, test] at tried
    exact ⟨c.players.asked_increasing, tried⟩

/-- A condition on all keepers that the second of them satisfies takes two readings, and one inside
    it that fails takes one. The condition inside the failed one and the one on an action point take
    none. -/
theorem Script.sweep_reads_in_turn_nested :
    let w := World.fresh.onDungeon 1 (·.addGold 50)
    let rich (players : Selector) (parent : Option Nat) : Condition :=
      ⟨parent, players, .measure .money 0 .greaterEqual 50, .unasked⟩
    let s := { Script.empty with conditions :=
      [rich .all none, rich (.one 0) (some 0), rich .all (some 1),
        ⟨some 0, .all, .entered 1, .unasked⟩] }
    ParentsFirst s.conditions ∧ (s.turn w).value.2.readings = 3 := by
  intro w rich s
  have first : ParentsFirst s.conditions := by
    intro i c p found inside
    match i, found with
    | 0, found | 1, found | 2, found | 3, found =>
      obtain rfl := Option.some.inj found
      cases inside <;> decide
  obtain ⟨_, _, counted, _⟩ := s.sweep_reads_in_turn w first
  refine ⟨first, counted.trans ?_⟩
  decide +kernel

end DungeonScript
