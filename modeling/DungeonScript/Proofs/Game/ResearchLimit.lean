import DungeonScript.Proofs.Game.Deeds
import DungeonScript.Proofs.World.Research

/-!
The limit on research lists. A line that orders an item to be researched is refused if the list of
one of the players it is for is full (`resolve_heedsLimit`), and a line that carries the order out
at once finds the list as it was looked at. A line that stores the order may be far away from the
tick on which the order fires, and nobody looks at the list then. So orders keep to the limit where
they are carried out by their lines, and exceed it exactly where a stored one fires and finds a list
that has already been replaced and is full (`order_exceeds_limit_iff`).
-/

namespace DungeonScript

/-! ## The line of an order -/

namespace Command

/-- Where an item is ordered, the list of each player it is ordered for has room for it. -/
def HeedsLimit (w : World) : Command → Prop
  | .effect e => ∀ p, e.ordersFor p = true → (w.agenda p).items.size < researchLimit
  | _ => True

open Reading in
theorem resolve_heedsLimit (w : World) (s : Script) (l : ScriptLine) :
    (resolve w s l).Gives (HeedsLimit w) := by
  cases hv : l.verb with
  | researchOrder =>
    simp only [resolve, hv, gives_bind, gives_pure]
    intro players _ _ room _ _ p named
    have all : players.everyone.all (fun p => (w.realm p).research.size < researchLimit) = true :=
      require_eq_ok.1 room
    have listed : p ∈ players.everyone := Selector.mem_everyone.2 named
    exact of_decide_eq_true (List.all_eq_true.1 all p listed)
  | _ =>
    simp [resolve, hv, HeedsLimit, Effect.ordersFor, sentTunneller, measureCondition, available,
      creatureStat, computerPlan]

end Command

namespace Game

theorem agenda_moved (p : Player) : MovedByEffects (fun w => w.agenda p) (Agenda.after p) :=
  movedByEffects_of_lasting Realm.agenda_lasting fun script e w => Effect.agenda_apply script e w p

/-! ## From deed to deed -/

/-- Orders that their lines have carried out found room in the list of player `p`, which was `a` at
    first. -/
def Heeded (p : Player) : Agenda → List Deed → Prop
  | _, [] => True
  | a, d :: rest =>
    (d.effect.ordersFor p = true → d.fired = false → a.items.size < researchLimit) ∧
      Heeded p (a.after p d.effect) rest

variable {p : Player}

theorem heeded_append (a : Agenda) (deeds more : List Deed) : Heeded p a (deeds ++ more) ↔
    Heeded p a deeds ∧ Heeded p (a.afterAll p (deeds.map (·.effect))) more := by
  induction deeds generalizing a with
  | nil => simp [Heeded, Agenda.afterAll]
  | cons d rest ih =>
    rw [List.cons_append, Heeded, Heeded, ih, and_assoc]
    rfl

theorem heeded_of_fired (effects : List Effect) (a : Agenda) :
    Heeded p a (effects.map fun e => ⟨e, true⟩) := by
  induction effects generalizing a with
  | nil => exact trivial
  | cons e rest ih => exact ⟨fun _ fired => Bool.noConfusion fired, ih _⟩

theorem carriedOut_heeded (lines : List (Nat × List Char)) (g : Game) :
    Heeded p (g.world.agenda p) ((g.carriedOut lines).map fun e => ⟨e, false⟩) := by
  induction lines generalizing g with
  | nil => exact trivial
  | cons line rest ih =>
    rw [carriedOut, List.map_append, heeded_append]
    let g' := { g with progress := g.progress.atLine line.1 }
    refine ⟨?_, ?_⟩
    · show Heeded p _ ((g'.carries? line.2).toList.map _)
      cases carries : g'.carries? line.2 with
      | none => exact trivial
      | some e =>
        obtain ⟨_, _, l, _, meaning⟩ := carries?_eq_some.1 carries
        have room := Command.resolve_heedsLimit g'.world g'.script l _ meaning p
        exact ⟨fun orders _ => room orders, trivial⟩
    · have step := (agenda_moved p).loadLine line g
      rw [List.map_map, Function.comp_def, List.map_id']
      unfold Agenda.afterAll
      rw [← step]
      exact ih _

theorem deedsOf_heeded (o : Options) (g : Game) (m : Move) :
    Heeded p (g.world.agenda p) (g.deedsOf o m) := by
  cases m with
  | loadLevel text =>
    have found : (g.preload text).value.cleared.world.agenda p = g.world.agenda p :=
      (Realm.agenda_lasting.forNewLevel _ p).trans ((agenda_moved p).preload text g)
    rw [← found]
    exact carriedOut_heeded _ _
  | advance => exact trivial
  | tick => exact heeded_of_fired _ _

theorem agenda_play (o : Options) (g : Game) (m : Move) (p : Player) :
    (g.play o m).world.agenda p =
      (g.world.agenda p).afterAll p ((g.deedsOf o m).map (·.effect)) :=
  (agenda_moved p).play (fun w => Realm.agenda_lasting.forNewLevel w p)
    (fun w => Realm.agenda_lasting.advance w p) o g m

theorem deeds_heeded (o : Options) (moves : List Move) (g : Game) :
    Heeded p (g.world.agenda p) (g.deeds o moves) := by
  induction moves generalizing g with
  | nil => exact trivial
  | cons m rest ih =>
    rw [deeds, heeded_append, ← agenda_play]
    exact ⟨deedsOf_heeded o g m, ih (g.play o m)⟩

/-- **Orders and the limit.** After any run of level loads, turns and ticks, the research list of a
    player is what the effects that were carried out have made of the list at the start, one by one.
    Each of them that orders an item for the player leaves a list longer than the limit if and only
    if it was stored and fires, and finds a list that a script has replaced already and that has
    reached the limit. -/
theorem order_exceeds_limit_iff (o : Options) (g : Game) (moves : List Move) (p : Player) :
    (g.after o moves).world.agenda p =
      (g.world.agenda p).afterAll p ((g.deeds o moves).map (·.effect)) ∧
    ∀ before d later, g.deeds o moves = before ++ d :: later → d.effect.ordersFor p = true →
      let found := (g.world.agenda p).afterAll p (before.map (·.effect))
      (researchLimit < (found.after p d.effect).items.size ↔
        d.fired = true ∧ found.replaced = true ∧ researchLimit ≤ found.items.size) := by
  refine ⟨?_, ?_⟩
  · exact (agenda_moved p).run (fun w => Realm.agenda_lasting.forNewLevel w p)
      (fun w => Realm.agenda_lasting.advance w p) o moves g
  · intro before d later split orders found
    have heeded := deeds_heeded (p := p) o moves g
    rw [split, heeded_append] at heeded
    have room : d.fired = false → found.items.size < researchLimit := heeded.2.1 orders
    rw [Agenda.size_after_order orders]
    constructor
    · intro longer
      cases replaced : found.replaced with
      | false =>
        -- the order starts a new list
        rw [replaced, if_neg Bool.false_ne_true] at longer
        exact absurd longer (by decide)
      | true =>
        rw [replaced, if_pos rfl] at longer
        have full : researchLimit ≤ found.items.size := Nat.le_of_lt_succ longer
        cases fired : d.fired with
        | false => exact absurd (room fired) (Nat.not_lt.2 full)
        | true => exact ⟨rfl, rfl, full⟩
    · rintro ⟨_, replaced, full⟩
      rw [replaced, if_pos rfl]
      exact Nat.lt_succ_of_le full

/-- An order that may fire again and again does so on each of 35 ticks. -/
theorem order_exceeds_limit_iff_reusable :
    let text := "LEVEL_VERSION(1)\nNEXT_COMMAND_REUSABLE\n" ++
      "RESEARCH_ORDER(PLAYER0,ROOM,TREASURE,100)\n"
    let moves : List Move := .loadLevel text :: List.replicate 35 .tick
    let order : Deed := ⟨.researchOrder (.one 0) .room 2 100, true⟩
    (default : Game).deeds .usual moves = List.replicate 34 order ++ [order] ∧
      researchLimit < (((default : Game).after .usual moves).world.agenda 0).items.size := by
  intro text moves order
  have done : (default : Game).deeds .usual moves = List.replicate 34 order ++ [order] := by
    decide +kernel
  obtain ⟨list, exceeds⟩ := order_exceeds_limit_iff .usual default moves 0
  have last := (exceeds (List.replicate 34 order) order [] done (by decide)).2 (by decide +kernel)
  refine ⟨done, ?_⟩
  rw [list, done, List.map_append]
  unfold Agenda.afterAll at last ⊢
  rw [List.foldl_append]
  exact last

end Game

end DungeonScript
