import DungeonScript.Proofs.Script.Sweep
import DungeonScript.Proofs.World.Frame
import DungeonScript.Script.Turn

/-!
Firing, entry by entry. `Script.turn` settles what fires before anything does. Here the
same turn is told the long way (`visitTurn`): the entries are visited one after the
other, each is looked up in the store as it stands at that moment, and one that fires
acts on the world and is marked in the store before the next is visited.
`turn_eq_visitTurn` says that both come to the same: nothing that fires adds an entry to
those that were due after the sweep or takes one away, and the entries act in the order
of spawns, tunnellers and effects, each in the order of registration. The verdicts come
last, and `mem_judged_giveVerdicts` says on whom they are given.
-/

namespace DungeonScript

/-! ## Slots -/

/-- Where an entry is stored: the list it is in, and its number there. -/
inductive Slot where
  | spawn (i : Nat)
  | tunneller (i : Nat)
  | effect (i : Nat)
  deriving Repr, DecidableEq

namespace Gated

variable {α : Type}

/-- The numbers of the entries that fire, the first entry having the number given. -/
def firing (conditions : List Condition) : Nat → List (Gated α) → List Nat
  | _, [] => []
  | i, e :: rest =>
    if e.fires conditions then i :: firing conditions (i + 1) rest
    else firing conditions (i + 1) rest

theorem mem_firing {conditions : List Condition} (xs : List (Gated α)) (first i : Nat) :
    i ∈ firing conditions first xs ↔
      ∃ n e, i = first + n ∧ xs[n]? = some e ∧ e.fires conditions = true := by
  induction xs generalizing first with
  | nil => simp [firing]
  | cons x rest ih =>
    -- counted from the next entry, every number is one less
    have later : i ∈ firing conditions (first + 1) rest ↔
        ∃ n e, i = first + (n + 1) ∧ (x :: rest)[n + 1]? = some e ∧ e.fires conditions = true := by
      rw [ih (first + 1)]
      constructor
      · intro h
        obtain ⟨n, e, rfl, found, fires⟩ := h
        exact ⟨n, e, by omega, found, fires⟩
      · intro h
        obtain ⟨n, e, rfl, found, fires⟩ := h
        exact ⟨n, e, by omega, found, fires⟩
    have whole : (∃ n e, i = first + n ∧ (x :: rest)[n]? = some e ∧ e.fires conditions = true) ↔
        (i = first ∧ x.fires conditions = true) ∨ i ∈ firing conditions (first + 1) rest := by
      rw [later]
      constructor
      · intro h
        obtain ⟨n, e, hi, found, fires⟩ := h
        cases n with
        | zero =>
          obtain rfl := Option.some.inj found
          exact .inl ⟨hi, fires⟩
        | succ n => exact .inr ⟨n, e, hi, found, fires⟩
      · intro h
        rcases h with ⟨rfl, fires⟩ | ⟨n, e, hi, found, fires⟩
        · exact ⟨0, x, rfl, rfl, fires⟩
        · exact ⟨n + 1, e, hi, found, fires⟩
    rw [whole, firing]
    split
    · rename_i fires
      simp [fires]
    · rename_i quiet
      simp [quiet]

/-- What every entry leaves as it is, all that fire leave as it is. -/
theorem fireAll_keeps {β : Type} {conditions : List Condition}
    {act : α → World → Logged World} {f : World → β}
    (h : ∀ a w, f (act a w).value = f w) (xs : List (Gated α)) (w : World) :
    f (fireAll conditions act xs w).value = f w := by
  induction xs generalizing w with
  | nil => rfl
  | cons e rest ih =>
    rw [fireAll]
    split
    · exact (ih _).trans (h e.item w)
    · exact ih w

/-- What fires is carried out one after the other. -/
theorem value_fireAll (conditions : List Condition)
    (act : α → World → Logged World) (xs : List (Gated α)) (w : World) :
    (fireAll conditions act xs w).value =
      ((xs.filter (·.fires conditions)).map (·.item)).foldl (fun w a => (act a w).value) w := by
  induction xs generalizing w with
  | nil => rfl
  | cons e rest ih =>
    rw [fireAll]
    split
    · rename_i fires
      rw [Logged.value_bind, ih, List.filter_cons_of_pos fires]
      rfl
    · rename_i quiet
      rw [ih, List.filter_cons_of_neg quiet]

end Gated

/-- The entries that are due and not spent, in the order they fire. -/
def Script.firing (s : Script) : List Slot :=
  (Gated.firing s.conditions 0 s.spawns).map .spawn ++
    (Gated.firing s.conditions 0 s.tunnellers).map .tunneller ++
    (Gated.firing s.conditions 0 s.effects).map .effect

def Gated.bare {α : Type} (e : Gated α) : Gated Unit := ⟨e.condition, e.use, ()⟩

/-- The entry in a slot, without what it does. -/
def Script.stored? (s : Script) : Slot → Option (Gated Unit)
  | .spawn i => s.spawns[i]?.map (·.bare)
  | .tunneller i => s.tunnellers[i]?.map (·.bare)
  | .effect i => s.effects[i]?.map (·.bare)

theorem Gated.mem_firing_bare {α : Type} {conditions : List Condition} (xs : List (Gated α))
    (i : Nat) : i ∈ Gated.firing conditions 0 xs ↔
      ∃ e, xs[i]?.map (·.bare) = some e ∧ e.fires conditions = true := by
  rw [mem_firing]
  constructor
  · intro h
    obtain ⟨n, e, rfl, found, fires⟩ := h
    refine ⟨e.bare, ?_, fires⟩
    rw [Nat.zero_add, found]
    rfl
  · intro h
    obtain ⟨_, there, fires⟩ := h
    obtain ⟨e, found, rfl⟩ := Option.map_eq_some_iff.1 there
    exact ⟨i, e, (Nat.zero_add i).symm, found, fires⟩

/-- An entry fires exactly if it is due and not spent. -/
theorem Script.mem_firing {s : Script} {x : Slot} :
    x ∈ s.firing ↔ ∃ e, s.stored? x = some e ∧ e.fires s.conditions = true := by
  unfold Script.firing
  cases x with
  | spawn i => simp [Gated.mem_firing_bare, Script.stored?]
  | tunneller i => simp [Gated.mem_firing_bare, Script.stored?]
  | effect i => simp [Gated.mem_firing_bare, Script.stored?]

/-! ## Visiting -/

/-- How far the visits of a turn have come. -/
structure Visits where
  fired : List Slot
  script : Script
  world : World

/-- One of the three lists of entries: how a store holds it, and what its entries do. -/
structure Rack (α : Type) where
  slot : Nat → Slot
  entries : Script → List (Gated α)
  replace : Script → List (Gated α) → Script
  act : Script → α → World → Logged World
  entries_replace : ∀ s xs, entries (replace s xs) = xs
  replace_entries : ∀ s, replace s (entries s) = s
  replace_replace : ∀ s xs ys, replace (replace s xs) ys = replace s ys
  conditions_replace : ∀ s xs, (replace s xs).conditions = s.conditions
  act_replace : ∀ s xs, act (replace s xs) = act s

namespace Rack

variable {α : Type} (r : Rack α)

/-- One entry is visited, in the store as it stands. -/
def visit (v : Visits) (i : Nat) : Visits :=
  match (r.entries v.script)[i]? with
  | none => v
  | some e =>
    if e.fires v.script.conditions then
      { fired := v.fired ++ [r.slot i]
        script := r.replace v.script ((r.entries v.script).set i e.afterFiring)
        world := (r.act v.script e.item v.world).value }
    else v

/-- All entries of a list are visited in order. -/
def visitAll (v : Visits) : Visits := (List.range (r.entries v.script).length).foldl r.visit v

/-- Visits to the entries that follow those visited already. -/
theorem visit_rest : ∀ (rest before : List (Gated α)) (v : Visits),
    r.entries v.script = before ++ rest →
    (List.range' before.length rest.length).foldl r.visit v =
      { fired := v.fired ++ (Gated.firing v.script.conditions before.length rest).map r.slot
        script := r.replace v.script (before ++ rest.map (·.afterTurn v.script.conditions))
        world := (Gated.fireAll v.script.conditions (r.act v.script) rest v.world).value }
  | [], before, v, h => by
    have same : r.replace v.script (before ++ []) = v.script := by
      rw [← h, r.replace_entries]
    simp only [List.length_nil, List.range'_zero, List.foldl_nil, Gated.firing, List.map_nil,
      List.append_nil, Gated.fireAll, Logged.value_pure] at same ⊢
    rw [same]
  | e :: rest, before, v, h => by
    have here : (r.entries v.script)[before.length]? = some e := by
      rw [h, List.getElem?_append_right (Nat.le_refl _), Nat.sub_self]
      rfl
    rw [List.length_cons, List.range'_succ, List.foldl_cons]
    by_cases fires : e.fires v.script.conditions = true
    · have visited : r.visit v before.length =
          { fired := v.fired ++ [r.slot before.length]
            script := r.replace v.script (before ++ e.afterFiring :: rest)
            world := (r.act v.script e.item v.world).value } := by
        have marked : (before ++ e :: rest).set before.length e.afterFiring =
            before ++ e.afterFiring :: rest := by simp
        rw [visit, here]
        simp only [if_pos fires, h, marked]
      -- the mark on `e` changes neither the conditions nor the entries still to be visited
      have ih := visit_rest rest (before ++ [e.afterFiring]) (r.visit v before.length)
        (by rw [visited, r.entries_replace, List.append_assoc]; rfl)
      rw [List.length_append, List.length_singleton] at ih
      rw [ih, visited]
      simp only [r.conditions_replace, r.act_replace, r.replace_replace]
      simp [Gated.firing, Gated.fireAll, Gated.afterTurn, fires]
    · have visited : r.visit v before.length = v := by
        rw [visit, here]
        simp only [if_neg fires]
      have ih := visit_rest rest (before ++ [e]) v (by rw [h, List.append_assoc]; rfl)
      rw [List.length_append, List.length_singleton] at ih
      rw [visited, ih]
      simp [Gated.firing, Gated.fireAll, Gated.afterTurn, fires]

/-- Visiting a list fires what was due when the first entry was visited. -/
theorem visitAll_eq (v : Visits) : r.visitAll v =
    { fired := v.fired ++ (Gated.firing v.script.conditions 0 (r.entries v.script)).map r.slot
      script := r.replace v.script ((r.entries v.script).map (·.afterTurn v.script.conditions))
      world := (Gated.fireAll v.script.conditions (r.act v.script) (r.entries v.script)
        v.world).value } := by
  rw [visitAll, List.range_eq_range']
  exact r.visit_rest (r.entries v.script) [] v rfl

end Rack

/-- An effect reads nothing of the store but its quick texts. -/
theorem Effect.apply_congr {s s' : Script} (h : s'.quickTexts = s.quickTexts) :
    Effect.apply s' = Effect.apply s := by
  funext e w
  cases e <;> simp only [Effect.apply, Script.quickText, h]

def spawnRack : Rack Spawn where
  slot := .spawn
  entries := Script.spawns
  replace s xs := { s with spawns := xs }
  act s := World.spawn s.parties
  entries_replace _ _ := rfl
  replace_entries _ := rfl
  replace_replace _ _ _ := rfl
  conditions_replace _ _ := rfl
  act_replace _ _ := rfl

def tunnellerRack : Rack Tunneller where
  slot := .tunneller
  entries := Script.tunnellers
  replace s xs := { s with tunnellers := xs }
  act s := World.sendOut s.parties
  entries_replace _ _ := rfl
  replace_entries _ := rfl
  replace_replace _ _ _ := rfl
  conditions_replace _ _ := rfl
  act_replace _ _ := rfl

def effectRack : Rack Effect where
  slot := .effect
  entries := Script.effects
  replace s xs := { s with effects := xs }
  act := Effect.apply
  entries_replace _ _ := rfl
  replace_entries _ := rfl
  replace_replace _ _ _ := rfl
  conditions_replace _ _ := rfl
  act_replace _ _ := Effect.apply_congr rfl

namespace Script

def sweptIn (w : World) (s : Script) : Script := { s with conditions := swept w s.conditions }

/-- The visits of a turn: after the sweep all spawns, then all tunnellers, then all
    effects. -/
def visitTurn (s : Script) (w : World) : Visits :=
  effectRack.visitAll <| tunnellerRack.visitAll <| spawnRack.visitAll
    ⟨[], s.sweptIn w, w.countReadings (sweep w s.conditions).value.readings⟩

/-- **What fires is settled by the sweep.** A turn comes to visiting the entries one after
    the other, each in the store as it stands; those that fire are the ones that were due
    and not spent after the sweep, in their order; and the verdicts come last. -/
theorem turn_eq_visitTurn (s : Script) (w : World) :
    (s.visitTurn w).fired = (s.sweptIn w).firing ∧
      (s.turn w).value = ((s.visitTurn w).script,
        ((s.visitTurn w).script.giveVerdicts (s.visitTurn w).world).value) := by
  have texts : ∀ t : Script, t.quickTexts = s.quickTexts → effectRack.act t = Effect.apply s :=
    fun _ h => Effect.apply_congr h
  unfold visitTurn
  simp only [Rack.visitAll_eq]
  constructor
  · rfl
  · -- when the effects are visited the marks have changed, but the quick texts have not
    rw [texts]
    · rfl
    · rfl

theorem visitTurn_script (s : Script) (w : World) :
    (s.visitTurn w).script = s.afterSweep (swept w s.conditions) := by
  unfold visitTurn
  simp only [Rack.visitAll_eq]
  rfl

theorem visitTurn_frame (s : Script) (w : World) : (s.visitTurn w).world.frame =
    (w.countReadings (sweep w s.conditions).value.readings).frame := by
  unfold visitTurn
  simp only [Rack.visitAll_eq]
  refine (Gated.fireAll_keeps (Effect.apply_frame _) _ _).trans ?_
  refine (Gated.fireAll_keeps (World.sendOut_frame _) _ _).trans ?_
  exact Gated.fireAll_keeps (World.spawn_frame _) _ _

end Script

/-! ## Verdicts -/

/-- The players on whom a verdict has been given. -/
def World.judged (w : World) : Verdict → List Nat
  | .win => w.won
  | .lose => w.lost

/-- The conditions that bring a verdict about. -/
def Script.claims (s : Script) : Verdict → List Nat
  | .win => s.wins
  | .lose => s.losses

theorem World.judged_pronounce (w : World) (v v' : Verdict) (q : Nat) :
    (w.pronounce v q).judged v' =
      if v' = v ∧ q ∉ w.judged v then w.judged v' ++ [q] else w.judged v' := by
  cases v <;> cases v' <;> simp only [World.pronounce] <;> split <;> simp_all [judged]

theorem World.mem_judged_pronounce {w : World} {v v' : Verdict} {p q : Nat} :
    p ∈ (w.pronounce v q).judged v' ↔ p ∈ w.judged v' ∨ v' = v ∧ p = q := by
  rw [judged_pronounce]
  split
  · rename_i h
    simp [h.1]
  · rename_i h
    refine ⟨.inl, fun given => ?_⟩
    rcases given with hp | ⟨rfl, rfl⟩
    · exact hp
    · exact Decidable.byContradiction fun hp => h ⟨rfl, hp⟩

theorem mem_judged_pronounceAll {conditions : List Condition} {v v' : Verdict} {p q : Nat}
    (ids : List Nat) (w : World) :
    p ∈ (Script.pronounceAll conditions v q ids w).value.judged v' ↔
      p ∈ w.judged v' ∨ v' = v ∧ p = q ∧ ∃ id ∈ ids, Script.conditionMet conditions id = true := by
  induction ids generalizing w with
  | nil => simp [Script.pronounceAll]
  | cons id rest ih =>
    rw [Script.pronounceAll]
    split
    · rename_i met
      rw [Logged.value_bind, ih, World.mem_judged_pronounce]
      simp only [List.mem_cons, exists_eq_or_imp, met, true_or, and_true]
      constructor
      · intro h
        rcases h with (hw | hq) | ⟨hv, hq, _⟩
        · exact .inl hw
        · exact .inr hq
        · exact .inr ⟨hv, hq⟩
      · intro h
        rcases h with hw | hq
        · exact .inl (.inl hw)
        · exact .inl (.inr hq)
    · rename_i unmet
      rw [ih]
      simp only [List.mem_cons, exists_eq_or_imp, unmet, Bool.false_eq_true, false_or]

/-- What no verdict changes, the verdicts of a turn do not change. -/
theorem giveVerdicts_keeps {α : Type} {f : World → α}
    (pronounce : ∀ w v p, f (World.pronounce w v p) = f w) (s : Script) (w : World) :
    f (s.giveVerdicts w).value = f w := by
  have all (v : Verdict) (p : Nat) (ids : List Nat) (w : World) :
      f (Script.pronounceAll s.conditions v p ids w).value = f w := by
    induction ids generalizing w with
    | nil => rfl
    | cons id rest ih =>
      rw [Script.pronounceAll]
      split
      · exact (ih _).trans (pronounce w v p)
      · exact ih w
  unfold Script.giveVerdicts
  split
  · rfl
  · exact (all _ _ _ _).trans (all _ _ _ _)

/-- A turn gives a verdict on this machine's player exactly if the game is not played over
    a network and a condition that brings the verdict about is met. -/
theorem mem_judged_giveVerdicts (s : Script) (w : World) (v : Verdict) (p : Nat) :
    p ∈ (s.giveVerdicts w).value.judged v ↔ p ∈ w.judged v ∨ w.network = false ∧
      p = w.myPlayer ∧ ∃ id ∈ s.claims v, Script.conditionMet s.conditions id = true := by
  unfold Script.giveVerdicts
  cases w.network with
  | true => simp
  | false =>
    simp only [Bool.false_eq_true, if_false, Logged.value_bind, true_and]
    rw [mem_judged_pronounceAll, mem_judged_pronounceAll]
    cases v with
    | win => simp [Script.claims]
    | lose => simp [Script.claims]

end DungeonScript
