import DungeonScript.Proofs.Game.Reachable

/-!
Met for the first time. A condition carries a mark which says that the sweep just made is
the first to leave it met. A sweep that asks the condition, because the one around it is
met, sets the mark right (`newlyMet_swept`); a sweep that passes the condition over takes
back that it is met, but leaves the mark as the sweep before left it. So a mark, once set,
stands until the condition is next asked (`newlyMet_afterSweeps`). It follows that the mark is
right after every sweep that asks the condition, and always for a condition in no other;
elsewhere it may stand although the condition is not met (`mark_stands_unmet`).
-/

namespace DungeonScript

/-! ## One sweep -/

/-- Whether condition number `id` is marked as met for the first time. -/
def newlyMet (conditions : List Condition) (id : Nat) : Bool :=
  match conditions[id]? with
  | some c => c.status.newlyMet
  | none => false

/-- Whether the sweep that left these conditions asked condition number `id`: there is one,
    and the condition around it is met. -/
def wasAsked (conditions : List Condition) (id : Nat) : Bool :=
  match conditions[id]? with
  | some c => Script.due conditions c.parent
  | none => false

theorem Condition.settled_newlyMet (w : World) (due : Bool) (c : Condition) :
    (c.settled w due).status.newlyMet =
      if due then (c.settled w due).status.met && !c.status.wasMet else c.status.newlyMet := by
  rw [settled_met]
  unfold Condition.settled
  cases due with
  | false => rfl
  | true =>
    simp only [if_true, Status.asked, Bool.true_and]
    cases (w.ask c.test c.players.asked).1 <;> cases c.status.wasMet <;> rfl

/-- A sweep that asks a condition marks it if it is met and never was; any other sweep
    leaves the mark alone. -/
theorem newlyMet_swept {conditions : List Condition} (h : ParentsFirst conditions) (w : World)
    (id : Nat) : newlyMet (swept w conditions) id =
      if wasAsked (swept w conditions) id then
        Script.conditionMet (swept w conditions) id && !everMet conditions id
      else newlyMet conditions id := by
  rw [newlyMet, newlyMet, wasAsked, Script.conditionMet, everMet, getElem?_swept h w]
  cases conditions[id]? with
  | none => rfl
  | some c => exact c.settled_newlyMet w _

/-- What is met has been asked. -/
theorem wasAsked_of_conditionMet {conditions : List Condition} (h : ParentsFirst conditions)
    (w : World) {id : Nat} (met : Script.conditionMet (swept w conditions) id = true) :
    wasAsked (swept w conditions) id = true := by
  rw [Script.conditionMet, getElem?_swept h w] at met
  rw [wasAsked, getElem?_swept h w]
  cases found : conditions[id]? with
  | none =>
    rw [found] at met
    cases met
  | some c =>
    rw [found] at met
    simp only [Option.map_some, Condition.settled_met, Bool.and_eq_true] at met
    exact met.1

/-! ## Many sweeps -/

theorem sweeps_append (worlds more : List World) (conditions : List Condition) :
    sweeps (worlds ++ more) conditions = sweeps more (sweeps worlds conditions) := by
  induction worlds generalizing conditions with
  | nil => rfl
  | cons w rest ih => exact ih (swept w conditions)

theorem ParentsFirst.sweeps {conditions : List Condition} (h : ParentsFirst conditions)
    (worlds : List World) : ParentsFirst (sweeps worlds conditions) := by
  induction worlds generalizing conditions with
  | nil => exact h
  | cons w rest ih => exact ih (h.swept w)

theorem sweeps_question {conditions : List Condition} (h : ParentsFirst conditions)
    (worlds : List World) :
    (sweeps worlds conditions).map (·.question) = conditions.map (·.question) := by
  induction worlds generalizing conditions with
  | nil => rfl
  | cons w rest ih => exact (ih (h.swept w)).trans (swept_question _ w)

/-- The conditions after the first `n` of these sweeps. -/
def afterSweeps (worlds : List World) (conditions : List Condition) (n : Nat) : List Condition :=
  sweeps (worlds.take n) conditions

theorem afterSweeps_succ {worlds : List World} {n : Nat} (hn : n < worlds.length)
    (conditions : List Condition) : afterSweeps worlds conditions (n + 1) =
      swept worlds[n] (afterSweeps worlds conditions n) := by
  unfold afterSweeps
  rw [List.take_add_one, List.getElem?_eq_getElem hn, sweeps_append]
  rfl

/-- The mark after one sweep more. -/
theorem newlyMet_afterSweeps_eq {worlds : List World} {conditions : List Condition}
    (h : ParentsFirst conditions) {n : Nat} (hn : n < worlds.length) (id : Nat) :
    newlyMet (afterSweeps worlds conditions (n + 1)) id =
      if wasAsked (afterSweeps worlds conditions (n + 1)) id then
        Script.conditionMet (afterSweeps worlds conditions (n + 1)) id &&
          !everMet (afterSweeps worlds conditions n) id
      else newlyMet (afterSweeps worlds conditions n) id := by
  rw [afterSweeps_succ hn]
  exact newlyMet_swept (h.sweeps (worlds.take n)) worlds[n] id

/-- Sweep number `n` leaves condition `id` met, and none before it did. -/
def FirstMet (worlds : List World) (conditions : List Condition) (id n : Nat) : Prop :=
  Script.conditionMet (afterSweeps worlds conditions (n + 1)) id = true ∧
    ∀ k < n, Script.conditionMet (afterSweeps worlds conditions (k + 1)) id = false

section Runs

variable {worlds : List World} {conditions : List Condition} {id : Nat}

/-- A condition that starts out unmet has been met before exactly if one of the sweeps so
    far left it met. -/
theorem everMet_afterSweeps (h : ParentsFirst conditions) (unmet : everMet conditions id = false)
    {n : Nat} (hn : n ≤ worlds.length) : everMet (afterSweeps worlds conditions n) id = true ↔
      ∃ k < n, Script.conditionMet (afterSweeps worlds conditions (k + 1)) id = true := by
  unfold afterSweeps
  rw [everMet_sweeps _ h id, unmet, List.length_take, Nat.min_eq_left hn]
  simp only [Bool.false_eq_true, false_or]
  refine exists_congr fun k => and_congr_right fun hk => ?_
  rw [List.take_take, Nat.min_eq_left hk]

/-- After a sweep that asks the condition, the mark says whether this sweep is the first to
    leave the condition met. -/
theorem newlyMet_of_wasAsked (h : ParentsFirst conditions) (unmet : everMet conditions id = false)
    {n : Nat} (hn : n < worlds.length)
    (asked : wasAsked (afterSweeps worlds conditions (n + 1)) id = true) :
    newlyMet (afterSweeps worlds conditions (n + 1)) id = true ↔
      FirstMet worlds conditions id n := by
  have before := everMet_afterSweeps h unmet (Nat.le_of_lt hn)
  rw [newlyMet_afterSweeps_eq h hn, if_pos asked, Bool.and_eq_true, Bool.not_eq_true', FirstMet]
  refine and_congr_right fun _ => ?_
  rw [← Bool.not_eq_true, before]
  constructor
  · intro never k hk
    exact eq_false_of_ne_true fun met => never ⟨k, hk, met⟩
  · intro never already
    obtain ⟨k, hk, met⟩ := already
    rw [never k hk] at met
    cases met

/-- The sweep that is the first to leave a condition met has asked it. -/
theorem FirstMet.wasAsked (h : ParentsFirst conditions) {n : Nat} (hn : n < worlds.length)
    (first : FirstMet worlds conditions id n) :
    wasAsked (afterSweeps worlds conditions (n + 1)) id = true := by
  have met := first.1
  rw [afterSweeps_succ hn] at met ⊢
  exact wasAsked_of_conditionMet (h.sweeps (worlds.take n)) worlds[n] met

/-- A mark found after a sweep was set by it, or was there before and passed over. -/
theorem newlyMet_afterSweeps_succ (h : ParentsFirst conditions)
    (unmet : everMet conditions id = false) {n : Nat} (hn : n < worlds.length) :
    newlyMet (afterSweeps worlds conditions (n + 1)) id = true ↔
      FirstMet worlds conditions id n ∨
        wasAsked (afterSweeps worlds conditions (n + 1)) id = false ∧
          newlyMet (afterSweeps worlds conditions n) id = true := by
  cases asked : wasAsked (afterSweeps worlds conditions (n + 1)) id with
  | true =>
    rw [newlyMet_of_wasAsked h unmet hn asked]
    simp
  | false =>
    have unfirst : ¬FirstMet worlds conditions id n := by
      intro first
      rw [first.wasAsked h hn] at asked
      cases asked
    rw [newlyMet_afterSweeps_eq h hn, asked, if_neg Bool.false_ne_true]
    simp [unfirst]

/-- **How long a mark stands.** A condition is marked exactly if some sweep so far was the
    first to leave it met and no sweep since then has asked it. -/
theorem newlyMet_afterSweeps (h : ParentsFirst conditions)
    (unmet : everMet conditions id = false) (unmarked : newlyMet conditions id = false)
    {n : Nat} (hn : n ≤ worlds.length) :
    newlyMet (afterSweeps worlds conditions n) id = true ↔
      ∃ m < n, FirstMet worlds conditions id m ∧
        ∀ k, m < k → k < n → wasAsked (afterSweeps worlds conditions (k + 1)) id = false := by
  induction n with
  | zero =>
    rw [show afterSweeps worlds conditions 0 = conditions from rfl, unmarked]
    simp
  | succ n ih =>
    rw [newlyMet_afterSweeps_succ h unmet hn, ih (Nat.le_of_lt hn)]
    constructor
    · intro marked
      rcases marked with first | ⟨asked, m, hm, first, passed⟩
      · exact ⟨n, Nat.lt_succ_self n, first, fun k hk hkn => absurd hk (by omega)⟩
      · refine ⟨m, Nat.lt_succ_of_lt hm, first, fun k hk hkn => ?_⟩
        rcases Nat.lt_succ_iff_lt_or_eq.1 hkn with hlt | rfl
        · exact passed k hk hlt
        · exact asked
    · intro marked
      obtain ⟨m, hm, first, passed⟩ := marked
      rcases Nat.lt_succ_iff_lt_or_eq.1 hm with hlt | rfl
      · -- the sweeps since number `m` have passed the condition over, this one among them
        refine .inr ⟨passed n hlt (Nat.lt_succ_self n), m, hlt, first, fun k hk hkn => ?_⟩
        exact passed k hk (Nat.lt_succ_of_lt hkn)
      · exact .inl first

/-- Every sweep asks a condition that stands in no other. -/
theorem wasAsked_of_outermost (h : ParentsFirst conditions) {c : Condition}
    (found : conditions[id]? = some c) (outermost : c.parent = none) :
    wasAsked (sweeps worlds conditions) id = true := by
  obtain ⟨c', found', same⟩ := getElem?_of_question (sweeps_question h worlds) found
  have parent : c'.parent = none := (congrArg (·.1) same).trans outermost
  rw [wasAsked, found']
  show Script.due _ c'.parent = true
  rw [parent]
  rfl

end Runs

/-! ## Loaded scripts -/

theorem everMet_of_untouched {s : Script} (untouched : Untouched s) (id : Nat) :
    everMet s.conditions id = false := by
  unfold everMet
  split
  · rename_i c found
    rw [untouched.conditions c (List.mem_of_getElem? found)]
    rfl
  · rfl

theorem newlyMet_of_untouched {s : Script} (untouched : Untouched s) (id : Nat) :
    newlyMet s.conditions id = false := by
  unfold newlyMet
  split
  · rename_i c found
    rw [untouched.conditions c (List.mem_of_getElem? found)]
    rfl
  · rfl

namespace Game

/-- **Met for the first time.** Let a script be loaded and its conditions swept in any
    worlds. The sweep that is the first to leave a condition met marks it. After a sweep
    that asks the condition, the mark stands only if this sweep is the first to leave it
    met, so that it is met; every sweep asks a condition that stands in no other. Over a
    whole run the mark stands from the sweep that is the first to leave the condition met
    up to the next one that asks it. -/
theorem mark_stands_until_asked (text : String) (g : Game) {worlds : List World} {n : Nat}
    (hn : n < worlds.length) (id : Nat) :
    let loaded := (g.load text).value.script.conditions
    let now := afterSweeps worlds loaded (n + 1)
    (FirstMet worlds loaded id n → newlyMet now id = true) ∧
    (wasAsked now id = true →
      (newlyMet now id = true ↔ FirstMet worlds loaded id n) ∧
      (newlyMet now id = true → Script.conditionMet now id = true)) ∧
    (∀ c, loaded[id]? = some c → c.parent = none → wasAsked now id = true) ∧
    (newlyMet now id = true ↔ ∃ m ≤ n, FirstMet worlds loaded id m ∧
      ∀ k, m < k → k ≤ n → wasAsked (afterSweeps worlds loaded (k + 1)) id = false) := by
  intro loaded now
  have parents : ParentsFirst loaded := load_parentsFirst text g
  have unmet : everMet loaded id = false := everMet_of_untouched (g.load_untouched text) id
  have unmarked : newlyMet loaded id = false := newlyMet_of_untouched (g.load_untouched text) id
  refine ⟨fun first => ?_, fun asked => ?_, fun c found outermost => ?_, ?_⟩
  · exact (newlyMet_of_wasAsked parents unmet hn (first.wasAsked parents hn)).2 first
  · have marked := newlyMet_of_wasAsked parents unmet hn asked
    exact ⟨marked, fun h => (marked.1 h).1⟩
  · exact wasAsked_of_outermost parents found outermost
  · have marked := newlyMet_afterSweeps parents unmet unmarked (Nat.succ_le_of_lt hn)
    simpa only [Nat.lt_succ_iff] using marked

/-- The inner of two conditions is met on the first sweep and passed over on the second: it
    stays marked as met for the first time, and is not met. -/
theorem mark_stands_unmet :
    let loaded := (load "IF(PLAYER0,MONEY >= 100)\nIF(PLAYER0,MONEY >= 50)\nENDIF\nENDIF\n"
      default).value.script.conditions
    let rich := World.fresh.onDungeon 0 fun d => { d with gold := 100 }
    let now := afterSweeps [rich, .fresh] loaded 2
    newlyMet now 1 = true ∧ Script.conditionMet now 1 = false ∧
      ¬FirstMet [rich, .fresh] loaded 1 1 := by
  intro loaded rich now
  have second : 1 < [rich, .fresh].length := by decide
  have unmet : Script.conditionMet now 1 = false := by decide +kernel
  have first : FirstMet [rich, .fresh] loaded 1 0 :=
    ⟨by decide +kernel, fun k hk => absurd hk (Nat.not_lt_zero k)⟩
  have passed : wasAsked now 1 = false := by decide +kernel
  refine ⟨?_, unmet, fun again => ?_⟩
  · refine (mark_stands_until_asked _ default second 1).2.2.2.2 ⟨0, by omega, first, ?_⟩
    intro k hk hkn
    obtain rfl : k = 1 := by omega
    exact passed
  · have met : Script.conditionMet now 1 = true := again.1
    rw [unmet] at met
    cases met

end Game

end DungeonScript
