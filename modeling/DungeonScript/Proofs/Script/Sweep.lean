import DungeonScript.Script.Sweep

/-!
What a sweep comes to. A sweep writes into the list it reads, one condition after the
other; since every condition comes after the one around it (`ParentsFirst`), what it
reads there is already the answer of this turn. So the conditions it leaves solve an
equation that does not mention the order (`sweep_eq`): each is settled by its own test
and by the condition around it as the sweep leaves it. Following the parents outwards,
a condition is met exactly if its own test and those of all conditions around it hold
(`conditionMet_swept_iff`), whatever was left of the turn before
(`conditionMet_swept_congr`). Over many sweeps, a condition was met exactly if one of
them left it met (`everMet_sweeps`).
-/

namespace DungeonScript

/-! ## One answer -/

/-- The test holds of the players it asks: of some keeper, if it asks them all, else of
    the one player. -/
def Holds (w : World) (players : Selector) (test : Test) : Prop :=
  match players with
  | .all => ∃ p : Player, p.val < heroes.val ∧ w.satisfies test p = true
  | .one slot => ∃ p : Player, p.val = slot ∧ w.satisfies test p = true

theorem mem_asked {players : Selector} {p : Player} : p ∈ players.asked ↔
    match players with
    | .all => p.val < heroes.val
    | .one slot => p.val = slot := by
  have hp : p.val < playerCount := p.isLt
  have hh : heroes.val ≤ playerCount := by decide
  simp only [Selector.asked, Selector.players, List.mem_filter, List.mem_finRange, true_and,
    Bool.and_eq_true, decide_eq_true_eq]
  cases players with
  | all =>
    simp only [Selector.bounds]
    omega
  | one slot =>
    simp only [Selector.bounds]
    omega

theorem ask_iff (w : World) (test : Test) (players : List Player) :
    (w.ask test players).1 = true ↔ ∃ p ∈ players, w.satisfies test p = true := by
  induction players with
  | nil => simp [World.ask]
  | cons p rest ih =>
    rw [World.ask]
    by_cases h : w.satisfies test p = true
    · simp [h]
    · simp [h, ih]

/-- Asking the players of a condition finds out whether its test holds. -/
theorem ask_asked (w : World) (players : Selector) (test : Test) :
    (w.ask test players.asked).1 = true ↔ Holds w players test := by
  rw [ask_iff]
  cases players with
  | all => simp only [mem_asked, Holds]
  | one slot => simp only [mem_asked, Holds]

/-! ## One sweep -/

/-- Every condition comes after the one around it. -/
def ParentsFirst (conditions : List Condition) : Prop :=
  ∀ (i : Nat) (c : Condition) (p : Nat), conditions[i]? = some c → c.parent = some p → p < i

/-- A condition after a sweep, `due` telling whether the condition around it is met. -/
def Condition.settled (w : World) (due : Bool) (c : Condition) : Condition :=
  { c with status := if due then c.status.asked (w.ask c.test c.players.asked).1
                     else c.status.passedOver }

def swept (w : World) (conditions : List Condition) : List Condition :=
  (sweep w conditions).value.conditions

theorem conditionMet_append_left {conditions : List Condition} {id : Nat}
    (h : id < conditions.length) (more : List Condition) :
    Script.conditionMet (conditions ++ more) id = Script.conditionMet conditions id := by
  rw [Script.conditionMet, Script.conditionMet, List.getElem?_append_left h]

theorem due_append_left {conditions : List Condition} {parent : Option Nat}
    (h : ∀ p, parent = some p → p < conditions.length) (more : List Condition) :
    Script.due (conditions ++ more) parent = Script.due conditions parent := by
  cases parent with
  | none => rfl
  | some p => exact conditionMet_append_left (h p rfl) more

theorem Condition.sweep_value (w : World) (before after : List Condition) (c : Condition) :
    (c.sweep w before after).value.1 = c.settled w (Script.due (before ++ c :: after) c.parent) := by
  unfold Condition.sweep Condition.settled
  cases Script.due (before ++ c :: after) c.parent with
  | true =>
    simp only [if_true]
    split <;> rfl
  | false => rfl

/-- A condition that is passed over takes no readings. -/
theorem Condition.sweep_readings (w : World) (before after : List Condition) (c : Condition) :
    (c.sweep w before after).value.2 = if Script.due (before ++ c :: after) c.parent then
      (w.ask c.test c.players.asked).2 else 0 := by
  unfold Condition.sweep
  cases Script.due (before ++ c :: after) c.parent with
  | true =>
    simp only [if_true]
    split <;> rfl
  | false => rfl

theorem ParentsFirst.settle {before after : List Condition} {c : Condition}
    (h : ParentsFirst (before ++ c :: after)) (w : World) (due : Bool) :
    ParentsFirst ((before ++ [c.settled w due]) ++ after) := by
  intro i d p hi hp
  rw [List.append_assoc, List.singleton_append] at hi
  -- only the condition at `before.length` is another, and its parent is the same
  rcases Nat.lt_trichotomy i before.length with hlt | heq | hgt
  · refine h i d p ?_ hp
    rw [List.getElem?_append_left hlt] at hi ⊢
    exact hi
  · subst heq
    rw [List.getElem?_append_right (Nat.le_refl _), Nat.sub_self] at hi
    obtain rfl := Option.some.inj hi
    refine h before.length c p ?_ hp
    rw [List.getElem?_append_right (Nat.le_refl _), Nat.sub_self]
    rfl
  · refine h i d p ?_ hp
    obtain ⟨k, rfl⟩ := Nat.exists_eq_add_of_lt hgt
    rw [List.getElem?_append_right (by omega)] at hi ⊢
    rw [show before.length + k + 1 - before.length = k + 1 by omega] at hi ⊢
    exact hi

/-- What is left to sweep comes out settled by the conditions as they come out. -/
theorem sweepAfter_eq (w : World) : ∀ (rest before : List Condition) (readings : Nat),
    ParentsFirst (before ++ rest) →
    (sweepAfter w before readings rest).value.conditions = before ++ rest.map fun c =>
      c.settled w (Script.due (sweepAfter w before readings rest).value.conditions c.parent)
  | [], before, _, _ => (List.append_nil before).symm
  | c :: rest, before, readings, h => by
    have inner := sweepAfter_eq w rest (before ++ [c.settled w (Script.due (before ++ c :: rest) c.parent)])
      (readings + (c.sweep w before rest).value.2) (h.settle w _)
    simp only [sweepAfter, Logged.value_bind, Condition.sweep_value]
    -- the condition around `c` has been swept already, so it is as it comes out
    have parent : ∀ p, c.parent = some p → p < before.length := by
      intro p hp
      refine h before.length c p ?_ hp
      rw [List.getElem?_append_right (Nat.le_refl _), Nat.sub_self]
      rfl
    have due : Script.due (before ++ c :: rest) c.parent = Script.due
        (sweepAfter w (before ++ [c.settled w (Script.due (before ++ c :: rest) c.parent)])
          (readings + (c.sweep w before rest).value.2) rest).value.conditions c.parent := by
      rw [inner, List.append_assoc, due_append_left parent, due_append_left parent]
    rw [List.map_cons, ← due]
    rw [List.append_assoc, List.singleton_append] at inner
    exact inner

/-- **The sweep solves an equation.** Each condition is settled by its own test and by the
    condition around it as the sweep leaves it. -/
theorem sweep_eq {conditions : List Condition} (h : ParentsFirst conditions) (w : World) :
    swept w conditions = conditions.map fun c =>
      c.settled w (Script.due (swept w conditions) c.parent) :=
  sweepAfter_eq w conditions [] 0 h

theorem getElem?_swept {conditions : List Condition} (h : ParentsFirst conditions) (w : World)
    (id : Nat) : (swept w conditions)[id]? = conditions[id]?.map fun c =>
      c.settled w (Script.due (swept w conditions) c.parent) := by
  conv => lhs; rw [sweep_eq h w]
  rw [List.getElem?_map]

/-! ## What is met -/

/-- Condition `outer` is condition `id` itself or one of those around it. -/
inductive Around (conditions : List Condition) : Nat → Nat → Prop where
  | self (id : Nat) : Around conditions id id
  | outer {id parent outer : Nat} {c : Condition} (found : conditions[id]? = some c)
      (inside : c.parent = some parent) (around : Around conditions parent outer) :
      Around conditions id outer

/-- The test of a condition holds, its number being the number of one. -/
def HoldsAt (w : World) (conditions : List Condition) (id : Nat) : Prop :=
  ∃ c, conditions[id]? = some c ∧ Holds w c.players c.test

@[simp] theorem Condition.settled_met (w : World) (due : Bool) (c : Condition) :
    (c.settled w due).status.met = (due && (w.ask c.test c.players.asked).1) := by
  unfold Condition.settled
  cases due with
  | false => rfl
  | true =>
    simp only [if_true, Status.asked, Bool.true_and]
    split
    · rename_i h
      simp only [Bool.and_eq_true] at h
      exact h.1.symm
    · rfl

/-- A condition comes out met if the one around it does and its own test holds. -/
theorem conditionMet_swept {conditions : List Condition} (h : ParentsFirst conditions) (w : World)
    {id : Nat} {c : Condition} (found : conditions[id]? = some c) :
    Script.conditionMet (swept w conditions) id = true ↔
      Script.due (swept w conditions) c.parent = true ∧ Holds w c.players c.test := by
  have out : (swept w conditions)[id]? =
      some (c.settled w (Script.due (swept w conditions) c.parent)) := by
    rw [getElem?_swept h w, found]
    rfl
  rw [Script.conditionMet, out]
  simp only [Condition.settled_met, Bool.and_eq_true, ask_asked]

theorem conditionMet_swept_of_none {conditions : List Condition} (h : ParentsFirst conditions)
    (w : World) {id : Nat} (found : conditions[id]? = none) :
    Script.conditionMet (swept w conditions) id = false := by
  have out : (swept w conditions)[id]? = none := by
    rw [getElem?_swept h w, found]
    rfl
  rw [Script.conditionMet, out]

/-- **What a sweep finds met.** A condition comes out met exactly if its own test and the
    tests of all conditions around it hold. -/
theorem conditionMet_swept_iff {conditions : List Condition} (h : ParentsFirst conditions)
    (w : World) (id : Nat) : Script.conditionMet (swept w conditions) id = true ↔
      ∀ outer, Around conditions id outer → HoldsAt w conditions outer := by
  -- the induction follows the parents, which have smaller numbers
  induction id using Nat.strongRecOn with
  | _ id ih =>
    cases found : conditions[id]? with
    | none =>
      rw [conditionMet_swept_of_none h w found]
      simp only [Bool.false_eq_true, false_iff]
      intro all
      obtain ⟨c, hc, _⟩ := all id (.self id)
      rw [found] at hc
      cases hc
    | some c =>
      rw [conditionMet_swept h w found]
      constructor
      · intro h' outer around
        obtain ⟨due, own⟩ := h'
        cases around with
        | self => exact ⟨c, found, own⟩
        | @outer _ parent _ c' found' inside around =>
          obtain rfl := Option.some.inj (found'.symm.trans found)
          rw [inside] at due
          exact (ih parent (h id c' parent found inside)).1 due outer around
      · intro all
        obtain ⟨c', hc', own⟩ := all id (.self id)
        obtain rfl := Option.some.inj (hc'.symm.trans found)
        refine ⟨?_, own⟩
        cases inside : c'.parent with
        | none => rfl
        | some parent =>
          refine (ih parent (h id c' parent found inside)).2 fun outer around => ?_
          exact all outer (.outer found inside around)

/-! ## What does not count -/

/-- What a condition asks, without what became of it. -/
def Condition.question (c : Condition) : Option Nat × Selector × Test := (c.parent, c.players, c.test)

theorem getElem?_of_question {conditions conditions' : List Condition}
    (h : conditions'.map (·.question) = conditions.map (·.question)) {id : Nat} {c : Condition}
    (found : conditions[id]? = some c) :
    ∃ c', conditions'[id]? = some c' ∧ c'.question = c.question := by
  have same : conditions'[id]?.map (·.question) = some c.question := by
    rw [← List.getElem?_map, h, List.getElem?_map, found]
    rfl
  exact Option.map_eq_some_iff.1 same

theorem ParentsFirst.of_question {conditions conditions' : List Condition}
    (first : ParentsFirst conditions)
    (h : conditions'.map (·.question) = conditions.map (·.question)) : ParentsFirst conditions' := by
  intro id c p found inside
  obtain ⟨c', found', same⟩ := getElem?_of_question h.symm found
  have parent : c'.parent = c.parent := congrArg (·.1) same
  exact first id c' p found' (parent.trans inside)

theorem Around.of_question {conditions conditions' : List Condition} {id outer : Nat}
    (around : Around conditions id outer)
    (h : conditions'.map (·.question) = conditions.map (·.question)) :
    Around conditions' id outer := by
  induction around with
  | self id => exact .self id
  | outer found inside _ ih =>
    obtain ⟨c', found', same⟩ := getElem?_of_question h found
    have parent : c'.parent = _ := congrArg (·.1) same
    exact .outer found' (parent.trans inside) ih

theorem HoldsAt.of_question {conditions conditions' : List Condition} {w : World} {id : Nat}
    (holds : HoldsAt w conditions id)
    (h : conditions'.map (·.question) = conditions.map (·.question)) :
    HoldsAt w conditions' id := by
  obtain ⟨c, found, own⟩ := holds
  obtain ⟨c', found', same⟩ := getElem?_of_question h found
  refine ⟨c', found', ?_⟩
  have players : c'.players = c.players := congrArg (·.2.1) same
  have test : c'.test = c.test := congrArg (·.2.2) same
  rw [players, test]
  exact own

/-- What is met does not depend on any status from before the sweep. -/
theorem conditionMet_swept_congr {conditions conditions' : List Condition}
    (first : ParentsFirst conditions)
    (h : conditions'.map (·.question) = conditions.map (·.question)) (w : World) (id : Nat) :
    Script.conditionMet (swept w conditions') id = Script.conditionMet (swept w conditions) id := by
  rw [Bool.eq_iff_iff, conditionMet_swept_iff first w id,
    conditionMet_swept_iff (first.of_question h) w id]
  constructor
  · intro all outer around
    exact (all outer (around.of_question h)).of_question h.symm
  · intro all outer around
    exact (all outer (around.of_question h.symm)).of_question h

theorem sweepAfter_question (w : World) : ∀ (rest before : List Condition) (readings : Nat),
    (sweepAfter w before readings rest).value.conditions.map (·.question) =
      (before ++ rest).map (·.question)
  | [], before, _ => by rw [List.append_nil]; rfl
  | c :: rest, before, readings => by
    simp only [sweepAfter, Logged.value_bind, Condition.sweep_value]
    rw [sweepAfter_question w rest]
    simp only [List.map_append, List.map_cons, List.append_assoc, List.singleton_append]
    rfl

theorem swept_question (conditions : List Condition) (w : World) :
    (swept w conditions).map (·.question) = conditions.map (·.question) :=
  sweepAfter_question w conditions [] 0

theorem ParentsFirst.swept {conditions : List Condition} (h : ParentsFirst conditions) (w : World) :
    ParentsFirst (swept w conditions) :=
  h.of_question (swept_question conditions w)

/-! ## Many sweeps -/

/-- The conditions after a sweep in each of these worlds. -/
def sweeps : List World → List Condition → List Condition
  | [], conditions => conditions
  | w :: rest, conditions => sweeps rest (swept w conditions)

/-- Whether condition number `id` has been met on some turn. -/
def everMet (conditions : List Condition) (id : Nat) : Bool :=
  match conditions[id]? with
  | some c => c.status.wasMet
  | none => false

theorem Condition.settled_wasMet (w : World) (due : Bool) (c : Condition) :
    (c.settled w due).status.wasMet = (c.status.wasMet || (c.settled w due).status.met) := by
  rw [settled_met]
  unfold Condition.settled
  cases due with
  | false => exact (Bool.or_false _).symm
  | true =>
    simp only [if_true, Status.asked, Bool.true_and]
    cases (w.ask c.test c.players.asked).1 <;> cases c.status.wasMet <;> rfl

theorem everMet_swept {conditions : List Condition} (h : ParentsFirst conditions) (w : World)
    (id : Nat) : everMet (swept w conditions) id =
      (everMet conditions id || Script.conditionMet (swept w conditions) id) := by
  rw [everMet, everMet, Script.conditionMet, getElem?_swept h w]
  cases conditions[id]? with
  | none => rfl
  | some c => exact c.settled_wasMet w _

/-- **What was ever met.** After some sweeps a condition counts as met before exactly if
    it did at the start or one of the sweeps left it met. -/
theorem everMet_sweeps (worlds : List World) {conditions : List Condition}
    (h : ParentsFirst conditions) (id : Nat) : everMet (sweeps worlds conditions) id = true ↔
      everMet conditions id = true ∨ ∃ n < worlds.length,
        Script.conditionMet (sweeps (worlds.take (n + 1)) conditions) id = true := by
  induction worlds generalizing conditions with
  | nil => simp [sweeps]
  | cons w rest ih =>
    rw [sweeps, ih (h.swept w), everMet_swept h w id, Bool.or_eq_true, or_assoc]
    refine or_congr Iff.rfl ?_
    constructor
    · intro h'
      rcases h' with met | ⟨n, hn, met⟩
      · exact ⟨0, Nat.succ_pos _, met⟩
      · exact ⟨n + 1, Nat.succ_lt_succ hn, met⟩
    · intro h'
      obtain ⟨n, hn, met⟩ := h'
      cases n with
      | zero => exact .inl met
      | succ n => exact .inr ⟨n, Nat.lt_of_succ_lt_succ hn, met⟩

end DungeonScript
