import DungeonScript.Proofs.Game.Deeds

/-!
Who is allied with whom. Each dungeon has its own list of allies, so an alliance of two players
stands in two places, and an effect that makes one writes to the one and then to the other
(`Effect.allied_apply`). No other effect writes to these lists, and nothing that happens in a game
clears them, not even a new level. So two players are allied exactly if they were so at first or an
effect has made them allies since; and as each such effect is about both of them alike, alliances
that are mutual at first remain mutual, and none ever ends (`alliances_mutual_and_lasting`).
-/

namespace DungeonScript

/-! ## Effects -/

/-- The effect makes players `p` and `q` allies. -/
def Effect.allies (p q : Player) : Effect → Bool
  | ally a b => (a == p.val && b == q.val) || (a == q.val && b == p.val)
  | _ => false

theorem Effect.allies_comm (e : Effect) (p q : Player) : e.allies p q = e.allies q p := by
  cases e with
  | ally => exact Bool.or_comm ..
  | _ => rfl

theorem Realm.allied_lasting (q : Player) : Realm.Lasting (·.dungeon.allied.get q) where
  unpeopled _ := rfl
  newLevel _ := rfl
  setUp setsUp r := congrArg (·.get q) (setsUp.allies r)

namespace World

def allied (w : World) (p q : Player) : Bool := (w.dungeon p).allied.get q

def Mutual (w : World) : Prop := ∀ p q, w.allied p q = w.allied q p

instance (w : World) : Decidable w.Mutual :=
  inferInstanceAs (Decidable (∀ p q, w.allied p q = w.allied q p))

theorem playerAt?_eq_some_iff {slot : Nat} {p : Player} :
    playerAt? slot = some p ↔ slot = p.val := by
  unfold playerAt?
  split
  · simp only [Option.some.injEq, Fin.ext_iff]
  · have inside := p.isLt
    simp only [reduceCtorEq, false_iff]
    omega

/-- One list of allies gets one more entry, if there are two players of these slots. -/
theorem allied_allyTo (a b : Nat) (w : World) (p q : Player) :
    (w.allyTo a b).allied p q = (w.allied p q || (a == p.val && b == q.val)) := by
  unfold allyTo
  split
  · rename_i i j owner ally
    obtain rfl := playerAt?_eq_some_iff.1 owner
    obtain rfl := playerAt?_eq_some_iff.1 ally
    unfold allied dungeon onDungeon
    rw [realm_onRealm]
    by_cases here : i = p
    · subst here
      rw [if_pos rfl]
      show (updateAt (w.realm i).dungeon.allied j fun _ => true)[q.val] = _
      rw [getElem_updateAt]
      by_cases there : j.val = q.val
      · rw [if_pos there, there, beq_self_eq_true, beq_self_eq_true, Bool.and_self, Bool.or_true]
      · rw [if_neg there, beq_false_of_ne there, Bool.and_false, Bool.or_false]
        rfl
    · rw [if_neg here, beq_false_of_ne (mt Fin.ext here), Bool.false_and, Bool.or_false]
  · rename_i missing
    have apart : (a == p.val && b == q.val) = false := by
      refine eq_false_of_ne_true fun both => ?_
      simp only [Bool.and_eq_true, beq_iff_eq] at both
      exact missing p q (playerAt?_eq_some_iff.2 both.1) (playerAt?_eq_some_iff.2 both.2)
    rw [apart, Bool.or_false]

end World

/-- An effect adds to the lists of allies the alliance it makes, on both sides. -/
theorem Effect.allied_apply (script : Script) (e : Effect) (w : World) (p q : Player) :
    (e.apply script w).value.allied p q = (w.allied p q || e.allies p q) := by
  have others (aside : e.aboutAllies = false) :
      (e.apply script w).value.allied p q = w.allied p q :=
    (Realm.allied_lasting q).effect_apply
      (fun spares r => congrArg (·[q]) (spares.allies aside r)) script w p
  cases e with
  | ally a b =>
    show ((w.allyTo a b).allyTo b a).allied p q = _
    rw [World.allied_allyTo, World.allied_allyTo, Bool.or_assoc, Bool.and_comm (b == p.val)]
    rfl
  | _ => exact (others rfl).trans (Bool.or_false _).symm

namespace Game

/-! ## Runs -/

/-- What may happen to a game: an effect is carried out, with the texts of any script, or a step is
    taken. -/
inductive Occurrence where
  | effect (script : Script) (e : Effect)
  | step (s : Step)

def occur (o : Options) (g : Game) : Occurrence → Game
  | .effect script e => { g with world := (e.apply script g.world).value }
  | .step s => g.step o s

def occurAll (o : Options) (g : Game) (run : List Occurrence) : Game := run.foldl (occur o) g

/-- The effects that are carried out in an occurrence, in order. -/
def effectsIn (o : Options) (g : Game) : Occurrence → List Effect
  | .effect _ e => [e]
  | .step s => g.stepEffects o s

/-- The effects that are carried out in a row of occurrences, in order. -/
def effectsOf (o : Options) : Game → List Occurrence → List Effect
  | _, [] => []
  | g, c :: rest => g.effectsIn o c ++ effectsOf o (g.occur o c) rest

theorem allied_moved (p q : Player) :
    MovedByEffects (fun w => w.allied p q) fun allied e => allied || e.allies p q :=
  movedByEffects_of_lasting (Realm.allied_lasting q) fun script e w => e.allied_apply script w p q

theorem foldl_or_any {α : Type} (f : α → Bool) (l : List α) (b : Bool) :
    l.foldl (fun b a => b || f a) b = (b || l.any f) := by
  induction l generalizing b with
  | nil => exact (Bool.or_false b).symm
  | cons a rest ih => rw [List.foldl_cons, ih, List.any_cons, Bool.or_assoc]

theorem allied_occur (o : Options) (g : Game) (c : Occurrence) (p q : Player) :
    (g.occur o c).world.allied p q =
      (g.world.allied p q || (g.effectsIn o c).any (·.allies p q)) := by
  cases c with
  | effect script e =>
    rw [effectsIn, List.any_cons, List.any_nil, Bool.or_false]
    exact e.allied_apply script g.world p q
  | step s =>
    rw [effectsIn, ← foldl_or_any]
    exact (allied_moved p q).step (fun w => (Realm.allied_lasting q).forNewLevel w p)
      (fun w => (Realm.allied_lasting q).advance w p) o g s

theorem allied_occurAll (o : Options) (run : List Occurrence) (g : Game) (p q : Player) :
    (g.occurAll o run).world.allied p q =
      (g.world.allied p q || (g.effectsOf o run).any (·.allies p q)) := by
  induction run generalizing g with
  | nil => exact (Bool.or_false _).symm
  | cons c rest ih =>
    calc ((g.occur o c).occurAll o rest).world.allied p q
      _ = ((g.occur o c).world.allied p q || ((g.occur o c).effectsOf o rest).any (·.allies p q)) :=
        ih (g.occur o c)
      _ = (g.world.allied p q || (g.effectsOf o (c :: rest)).any (·.allies p q)) := by
        rw [allied_occur, Bool.or_assoc, effectsOf, List.any_append]

/-- **Alliances are mutual and last.** Let effects be carried out, texts be loaded, turns of the
    world and ticks follow each other in any way, from any game on. Afterwards player `p` has player
    `q` as an ally exactly if that was so at the start, or an effect that was carried out has made
    the two allies. So if alliances are mutual at the start, they are mutual afterwards, and whoever
    is an ally at the start is one still. -/
theorem alliances_mutual_and_lasting (o : Options) (run : List Occurrence) (g : Game) :
    let later := (g.occurAll o run).world
    (∀ p q, later.allied p q = (g.world.allied p q || (g.effectsOf o run).any (·.allies p q))) ∧
      (g.world.Mutual → later.Mutual) ∧
      ∀ p q, g.world.allied p q = true → later.allied p q = true := by
  refine ⟨fun p q => allied_occurAll o run g p q, fun alike p q => ?_, fun p q allied => ?_⟩
  · have same : (fun e : Effect => e.allies p q) = fun e => e.allies q p :=
      funext fun e => e.allies_comm p q
    rw [allied_occurAll, allied_occurAll, alike p q, same]
  · rw [allied_occurAll, allied, Bool.true_or]

/-- An alliance that a stored entry makes on a tick stands on both sides, and still does so when
    another text has been loaded and another alliance been made. -/
theorem alliances_mutual_and_lasting_reloaded :
    let text := "IF(PLAYER0,MONEY >= 0)\nALLY_PLAYERS(PLAYER0,PLAYER2)\nENDIF\n"
    let g := (default : Game).occurAll .usual [.step (.load text), .step .advance, .step .tick]
    let later := (g.occurAll .usual [.step (.load ""), .effect .empty (.ally 1 3)]).world
    g.world.allied 0 2 = true ∧ g.world.Mutual ∧
      later.allied 0 2 = true ∧ later.allied 3 1 = true ∧ later.Mutual := by
  intro text g later
  have allied : g.world.allied 0 2 = true := by decide +kernel
  have start : (default : Game).world.Mutual := by decide +kernel
  obtain ⟨-, mutualFirst, -⟩ := alliances_mutual_and_lasting .usual
    [.step (.load text), .step .advance, .step .tick] default
  obtain ⟨iffMade, mutualLater, lasting⟩ := alliances_mutual_and_lasting .usual
    [.step (.load ""), .effect .empty (.ally 1 3)] g
  have other : later.allied 3 1 = true := by
    rw [iffMade 3 1]
    decide +kernel
  exact ⟨allied, mutualFirst start, lasting 0 2 allied, other, mutualLater (mutualFirst start)⟩

end Game

end DungeonScript
