import DungeonScript.Proofs.World.Sound
import Mathlib.Data.List.Basic
import Mathlib.Data.Nat.Bitwise
import Mathlib.Logic.Function.Iterate

/-!
Points of the map. Which points and which gates there are never changes (`Change.sites`). What
changes is who has entered a point: a bit for each player, set by the player's entry
(`entered_activate`).

Entries are put off until a turn, in a timetable that may be in any order. A turn of the world
counts itself first, and then the entries happen that name the very turn now counted
(`entered_next`). So what has happened after some turns is what the timetable has for the turns
counted since (`entered_after_turns`). An entry for a turn that is counted already never happens;
a world begins with turn 0 counted, and settings may well list entries for it
(`Settings.entered_iff_listed`).
-/

namespace DungeonScript

/-! ## Points and gates -/

theorem Catalogue.has_put {α : Type} (c : Catalogue α) (k : Nat) (v : α) (j : Nat) :
    (c.put k v).has j = (c.has j || k == j) := by
  unfold has
  by_cases same : k = j
  · subst same
    rw [get?_put_self, beq_self_eq_true, Bool.or_true, Option.isSome_some]
  · rw [get?_put_of_ne c v same, beq_false_of_ne same, Bool.or_false]

namespace World

def sites (w : World) : (Nat → Bool) × (Nat → Bool) := (w.hasPoint, w.hasGate)

theorem sites_of_core {w w' : World} (same : w'.core = w.core) : w'.sites = w.sites := by
  have points : w'.points = w.points := congrArg Core.points same
  have gates : w'.gates = w.gates := congrArg Core.gates same
  unfold sites hasPoint hasGate
  rw [points, gates]

theorem Change.sites {w w' : World} (change : Change w w') : w'.sites = w.sites := by
  cases change with
  | @point number old new here =>
    refine Prod.ext (funext fun j => ?_) rfl
    show (w.points.put number new).has j = w.points.has j
    rw [Catalogue.has_put, Bool.or_eq_left_iff_imp, beq_iff_eq]
    rintro rfl
    rw [Catalogue.has, here, Option.isSome_some]
  | other same => exact sites_of_core same
  | _ => rfl

theorem Changes.sites {w w' : World} (changes : Changes w w') : w'.sites = w.sites := by
  induction changes with
  | refl => rfl
  | next _ change ih => exact change.sites.trans ih

theorem advance_sites (w : World) : w.advance.value.sites = w.sites := by
  rw [w.advance_changes.sites]
  rfl

end World

/-! ## Entries -/

/-- The entry is that of player `p` into point `a`. -/
def Activation.Of (x : Activation) (a p : Nat) : Prop := x.point = a ∧ x.player = p

namespace World

variable {a p : Nat}

/-- The bit of player `p` is set among those who have entered point `a`. -/
def Entered (w : World) (a p : Nat) : Prop := (w.activations a).testBit p = true

theorem testBit_activationBit (player p : Nat) :
    (activationBit player).testBit p = true ↔ player = p ∧ p < 32 := by
  unfold activationBit
  split
  · rename_i wide
    rw [Nat.one_shiftLeft, Nat.testBit_two_pow, decide_eq_true_eq]
    exact ⟨fun same => ⟨same, same ▸ wide⟩, And.left⟩
  · rename_i wide
    rw [Nat.zero_testBit]
    exact ⟨nofun, fun ⟨same, narrow⟩ => absurd (same ▸ narrow) wide⟩

/-- An entry sets the bit of its player for its point, if there is such a point. -/
theorem entered_activate (w : World) (number player : Nat) :
    (w.activate number player).value.Entered a p ↔
      w.Entered a p ∨ w.hasPoint a = true ∧ p < 32 ∧ number = a ∧ player = p := by
  unfold Entered activations activate hasPoint Catalogue.has
  cases here : w.points.get? number with
  | none =>
    refine ⟨.inl, ?_⟩
    rintro (old | ⟨there, -, rfl, -⟩)
    · exact old
    · rw [here] at there
      cases there
  | some point =>
    by_cases same : number = a
    · subst same
      simp only [Logged.value_pure, Catalogue.get?_put_self, here, Nat.testBit_or, Bool.or_eq_true,
        testBit_activationBit, Option.isSome_some, true_and, and_comm]
    · simp only [Logged.value_pure, Catalogue.get?_put_of_ne _ _ same, same, false_and, and_false,
        or_false]

theorem hasPoint_activate (w : World) (number player : Nat) :
    (w.activate number player).value.hasPoint = w.hasPoint :=
  congrArg Prod.fst (w.activate_changes number player).sites

theorem entered_activateAll (due : List Activation) (w : World) :
    (activateAll due w).value.Entered a p ↔
      w.Entered a p ∨ w.hasPoint a = true ∧ p < 32 ∧ ∃ x ∈ due, x.Of a p := by
  induction due generalizing w with
  | nil => exact ⟨.inl, fun h => h.elim id fun ⟨_, _, _, absent, _⟩ => nomatch absent⟩
  | cons x rest ih =>
    have later : (activateAll (x :: rest) w).value =
      (activateAll rest (w.activate x.point x.player).value).value := rfl
    rw [later, ih, entered_activate, hasPoint_activate, List.exists_mem_cons_iff, Activation.Of]
    tauto

/-! ## Turns of the world -/

def next (w : World) : World := w.advance.value

/-- A turn counts itself and pays the keepers; then all happens that is due on it. -/
theorem next_eq (w : World) : ∃ paid : World, paid.points = w.points ∧
    w.next = (activateAll (w.schedule.filter (·.turn == w.turn + 1)) paid).value := by
  let counted : World := { w with turn := w.turn + 1 }
  let paid := if w.income = 0 then counted else counted.onEachDungeon keepers (·.addGold w.income)
  have kept : (paid.frame, paid.points) = (counted.frame, counted.points) := by
    unfold paid
    split
    · rfl
    · exact onEach_keeps (k := fun w => (w.frame, w.points)) (fun _ _ _ => rfl) counted
  have turn : paid.turn = w.turn + 1 := congrArg (·.1.turn) kept
  have schedule : paid.schedule = w.schedule := congrArg (·.1.schedule) kept
  refine ⟨paid, congrArg (·.2) kept, ?_⟩
  show (activateAll (paid.schedule.filter (·.turn == paid.turn)) paid).value = _
  rw [turn, schedule]

theorem hasPoint_next (w : World) : w.next.hasPoint = w.hasPoint :=
  congrArg Prod.fst w.advance_sites

theorem schedule_next (w : World) : w.next.schedule = w.schedule :=
  advance_keeps (k := schedule) (fun _ _ _ _ => rfl) (fun _ _ _ _ _ => rfl) w

theorem entered_next (w : World) :
    w.next.Entered a p ↔ w.Entered a p ∨
      w.hasPoint a = true ∧ p < 32 ∧ ∃ x ∈ w.schedule, x.Of a p ∧ x.turn = w.turn + 1 := by
  obtain ⟨paid, points, next⟩ := w.next_eq
  have entered : paid.Entered a p ↔ w.Entered a p := by
    unfold Entered activations
    rw [points]
  have there : paid.hasPoint a = w.hasPoint a := congrArg (Catalogue.has · a) points
  rw [next, entered_activateAll, entered, there]
  simp only [List.mem_filter, beq_iff_eq, and_assoc, and_comm]

/-- **What has happened after some turns** is what the timetable has for the turns counted since. -/
theorem entered_after_turns (n : Nat) (w : World) :
    (next^[n] w).Entered a p ↔ w.Entered a p ∨
      w.hasPoint a = true ∧ p < 32 ∧
        ∃ x ∈ w.schedule, x.Of a p ∧ w.turn < x.turn ∧ x.turn ≤ w.turn + n := by
  induction n generalizing w with
  | zero =>
    refine ⟨.inl, ?_⟩
    rintro (old | ⟨_, _, x, _, _, after, upTo⟩)
    · exact old
    · omega
  | succ n ih =>
    have turn : w.next.turn = w.turn + 1 := w.turn_advance
    rw [Function.iterate_succ_apply, ih, entered_next, hasPoint_next, schedule_next, turn]
    constructor
    · rintro ((old | ⟨there, seated, x, listed, same, due⟩) |
        ⟨there, seated, x, listed, same, after, upTo⟩)
      · exact .inl old
      · exact .inr ⟨there, seated, x, listed, same, by omega, by omega⟩
      · exact .inr ⟨there, seated, x, listed, same, by omega, by omega⟩
    · rintro (old | ⟨there, seated, x, listed, same, after, upTo⟩)
      · exact .inl (.inl old)
      · -- an entry is due on the first of the turns or on one of the others
        by_cases due : x.turn = w.turn + 1
        · exact .inl (.inr ⟨there, seated, x, listed, same, due⟩)
        · exact .inr ⟨there, seated, x, listed, same, by omega, by omega⟩

end World

/-! ## Settings -/

namespace Settings

/-- The settings list an entry of player `p`, who is one of the game, into point `a` for one of
    these turns. -/
def Lists (s : Settings) (a p : Nat) (turns : Nat → Prop) : Prop :=
  p < playerCount ∧ ∃ x ∈ s.activations, x.Of a p ∧ turns x.turn

/-- The entries of players that exist are put down in the timetable. -/
theorem schedule_scheduleAll (activations : List Activation) (w : World) :
    (scheduleAll activations w).value.schedule =
      w.schedule ++ activations.filter fun x => x.player < playerCount := by
  induction activations generalizing w with
  | nil => exact (List.append_nil w.schedule).symm
  | cons x rest ih =>
    unfold scheduleAll
    by_cases exists_ : x.player < playerCount
    · rw [if_pos exists_, ih, List.filter_cons_of_pos (by exact decide_eq_true exists_)]
      exact List.append_assoc w.schedule [x] _
    · rw [if_neg exists_, List.filter_cons_of_neg (by exact mt of_decide_eq_true exists_)]
      exact ih w

theorem world_schedule (s : Settings) :
    s.world.value.schedule = s.activations.filter fun x => x.player < playerCount := by
  refine (schedule_scheduleAll s.activations _).trans ?_
  -- no point and no gate puts anything down in the timetable
  refine (congrArg (· ++ _) ?_).trans (List.nil_append _)
  refine List.foldlRecOn (motive := fun w : World => w.schedule = []) s.gates _ ?_ ?_
  · exact List.foldlRecOn (motive := fun w : World => w.schedule = []) s.points _ rfl
      fun _ empty _ _ => empty
  · exact fun _ empty _ _ => empty

theorem world_points (s : Settings) : s.world.value.points =
    (s.points.foldl (fun w p => w.addPoint p.number p.coords) s.bareWorld).points := by
  refine (scheduleAll_keeps (k := World.points) (fun _ _ => rfl) s.activations _).trans ?_
  exact List.foldlRecOn (motive := fun w : World => w.points = _) s.gates _ rfl
    fun _ same _ _ => same

theorem world_hasPoint (s : Settings) (a : Nat) :
    s.world.value.hasPoint a = true ↔ a ∈ s.points.map (·.number) := by
  have laid (points : List MapPoint) (w : World) :
      (points.foldl (fun w p => w.addPoint p.number p.coords) w).hasPoint a = true ↔
        w.hasPoint a = true ∨ a ∈ points.map (·.number) := by
    induction points generalizing w with
    | nil => rw [List.foldl_nil, List.map_nil, List.mem_nil_iff, or_false]
    | cons p rest ih =>
      have added : (w.addPoint p.number p.coords).hasPoint a =
        (w.hasPoint a || p.number == a) := Catalogue.has_put w.points p.number _ a
      rw [List.foldl_cons, ih, added, Bool.or_eq_true, beq_iff_eq, List.map_cons, List.mem_cons,
        or_assoc, eq_comm (a := a)]
  rw [World.hasPoint, world_points]
  exact (laid s.points s.bareWorld).trans (or_iff_right Bool.false_ne_true)

theorem world_unentered (s : Settings) (a p : Nat) : ¬ s.world.value.Entered a p := by
  have none_ : s.world.value.activations a = 0 := by
    rw [World.activations, world_points]
    refine List.foldlRecOn (motive := fun w : World => w.activations a = 0) s.points _ rfl ?_
    intro w old point _
    unfold World.activations World.addPoint
    by_cases same : point.number = a
    · rw [← same, Catalogue.get?_put_self]
    · simp only [Catalogue.get?_put_of_ne _ _ same]
      exact old
  rw [World.Entered, none_, Nat.zero_testBit]
  exact Bool.false_ne_true

theorem mem_world_schedule (s : Settings) {a p : Nat} (turns : Nat → Prop) :
    (p < 32 ∧ ∃ x ∈ s.world.value.schedule, x.Of a p ∧ turns x.turn) ↔ s.Lists a p turns := by
  rw [world_schedule]
  constructor
  · rintro ⟨_, x, listed, same, when_⟩
    obtain ⟨listed, exists_⟩ := List.mem_filter.1 listed
    exact ⟨same.2 ▸ of_decide_eq_true exists_, x, listed, same, when_⟩
  · rintro ⟨exists_, x, listed, same, when_⟩
    have kept : decide (x.player < playerCount) = true := decide_eq_true (same.2.symm ▸ exists_)
    exact ⟨exists_.trans (by decide), x, List.mem_filter.2 ⟨listed, kept⟩, same, when_⟩

open World (next) in
/-- **An entry happens on the turn it names, if that turn is still to come.** Take the world of any
    settings. After `n` turns the bit of player `p` is set for point `a` exactly if there is such a
    point and the settings list an entry of `p` into it, `p` being one of the five players, for
    one of the turns 1 to `n`; in what order they list their entries, how often the same one, and
    what else, makes no difference.

    Turn 0 is not one of them: it has been counted before anything is put off. So to say "for some
    turn up to `n`", turn 0 included, is right for a point that there is exactly if whoever is
    listed for turn 0 is listed for one of the turns 1 to `n` as well. -/
theorem entered_iff_listed (s : Settings) (a p n : Nat) :
    ((next^[n] s.world.value).Entered a p ↔
      a ∈ s.points.map (·.number) ∧ s.Lists a p fun t => 0 < t ∧ t ≤ n) ∧
    (a ∈ s.points.map (·.number) →
      (((next^[n] s.world.value).Entered a p ↔ s.Lists a p (· ≤ n)) ↔
        (s.Lists a p (· = 0) → s.Lists a p fun t => 0 < t ∧ t ≤ n))) := by
  have start : s.world.value.turn = 0 := world_keeps (fun _ _ _ _ => rfl) s
  have happened : (next^[n] s.world.value).Entered a p ↔
      a ∈ s.points.map (·.number) ∧ s.Lists a p fun t => 0 < t ∧ t ≤ n := by
    rw [World.entered_after_turns, or_iff_right (s.world_unentered a p), world_hasPoint, start,
      Nat.zero_add, mem_world_schedule s fun t => 0 < t ∧ t ≤ n]
  have upTo : s.Lists a p (· ≤ n) ↔
      s.Lists a p (· = 0) ∨ s.Lists a p fun t => 0 < t ∧ t ≤ n := by
    constructor
    · rintro ⟨exists_, x, listed, same, upTo⟩
      rcases Nat.eq_zero_or_pos x.turn with first | later
      · exact .inl ⟨exists_, x, listed, same, first⟩
      · exact .inr ⟨exists_, x, listed, same, later, upTo⟩
    · rintro (⟨exists_, x, listed, same, first⟩ | ⟨exists_, x, listed, same, later⟩)
      · exact ⟨exists_, x, listed, same, first ▸ Nat.zero_le n⟩
      · exact ⟨exists_, x, listed, same, later.2⟩
  refine ⟨happened, fun there => ?_⟩
  rw [happened, upTo]
  tauto

open World (next) in
/-- Of two players listed for point 1, the one listed for turn 0 never enters it. -/
theorem entered_iff_listed_for_turn_zero :
    let s := { usual with points := [⟨1, 10, 10⟩], activations := [⟨2, 1, 3⟩, ⟨0, 1, 0⟩] }
    1 ∈ s.points.map (·.number) ∧ (next^[2] s.world.value).Entered 1 3 ∧
      s.Lists 1 0 (· ≤ 2) ∧ ¬ (next^[2] s.world.value).Entered 1 0 := by
  intro s
  have there : 1 ∈ s.points.map (·.number) := List.mem_singleton_self 1
  have first : s.Lists 1 0 (· = 0) := ⟨by decide, ⟨0, 1, 0⟩, by decide, ⟨rfl, rfl⟩, rfl⟩
  have unlisted : ¬ s.Lists 1 0 fun t => 0 < t ∧ t ≤ 2 := by
    unfold Lists Activation.Of
    decide
  have listed : s.Lists 1 0 (· ≤ 2) := ⟨by decide, ⟨0, 1, 0⟩, by decide, ⟨rfl, rfl⟩, by decide⟩
  refine ⟨there, ?_, listed, fun entered => ?_⟩
  · exact (entered_iff_listed s 1 3 2).1.2
      ⟨there, by decide, ⟨2, 1, 3⟩, by decide, ⟨rfl, rfl⟩, by decide⟩
  · have claimed := (entered_iff_listed s 1 0 2).2 there
    exact unlisted (claimed.1 ⟨fun _ => listed, fun _ => entered⟩ first)

end Settings

end DungeonScript
