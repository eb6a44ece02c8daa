import DungeonScript.Proofs.World.Changes
import Mathlib.Data.List.Basic

/-!
Who an effect is about. Most effects carry an address, the players they are meant for. Such an
effect is carried out on one player after the other (`apply_in_turn`); on all players it comes to
the same effect on each of the five, keepers first and the heroes last (`all_players_in_turn`).

What an effect can change of a player is changed only for the players it is about (`subjects`):
everyone else keeps realm and creatures (`holdings_apply`, `others_keep_holdings`).
-/

namespace DungeonScript

/-! ## Addresses -/

namespace Effect

/-- The players an effect is addressed to, if it has an address. -/
def players? : Effect → Option Selector
  | setHate ps _ _ => some ps
  | available ps _ _ _ _ => some ps
  | research ps _ _ _ => some ps
  | researchOrder ps _ _ _ => some ps
  | setTimer ps _ => some ps
  | setFlag ps _ _ => some ps
  | maxCreatures ps _ => some ps
  | setMaxLevel ps _ _ => some ps
  | playMessage ps _ _ => some ps
  | addGold ps _ => some ps
  | setTendency ps _ _ => some ps
  | revealRect ps _ _ _ _ => some ps
  | revealPlace ps _ _ => some ps
  | kill ps _ _ _ => some ps
  | _ => none

/-- The effect addressed to other players; one without an address stays as it is. -/
def addressed (ps : Selector) : Effect → Effect
  | setHate _ enemy hate => setHate ps enemy hate
  | available _ stock item first second => available ps stock item first second
  | research _ kind item amount => research ps kind item amount
  | researchOrder _ kind item amount => researchOrder ps kind item amount
  | setTimer _ timer => setTimer ps timer
  | setFlag _ flag value => setFlag ps flag value
  | maxCreatures _ count => maxCreatures ps count
  | setMaxLevel _ kind level => setMaxLevel ps kind level
  | playMessage _ channel message => playMessage ps channel message
  | addGold _ amount => addGold ps amount
  | setTendency _ tendency value => setTendency ps tendency value
  | revealRect _ x y width height => revealRect ps x y width height
  | revealPlace _ place range => revealPlace ps place range
  | kill _ kind order count => kill ps kind order count
  | e => e

/-- The players an effect is about: those it is addressed to, and both sides of an alliance. -/
def subjects (e : Effect) : List Player :=
  match e with
  | ally a b => (World.playerAt? a).toList ++ (World.playerAt? b).toList
  | e => (e.players?.map Selector.everyone).getD []

end Effect

def Channel.message (channel : Channel) (number : Int) : Message :=
  match channel with
  | .speech => .speech number
  | .sound => .sound number

/-! ## One player after the other -/

namespace World

/-- Two ways of going through a list come to the same while they agree on every step. -/
theorem foldl_eq_while {α : Type} {f g : World → α → World} (holds : World → Prop)
    (keeps : ∀ w a, holds w → holds (f w a)) (same : ∀ w a, holds w → f w a = g w a)
    (xs : List α) {w : World} (now : holds w) : xs.foldl f w = xs.foldl g w := by
  induction xs generalizing w with
  | nil => rfl
  | cons a rest ih =>
    calc rest.foldl f (f w a)
      _ = rest.foldl g (f w a) := ih (keeps w a now)
      _ = rest.foldl g (g w a) := by rw [same w a now]

theorem onEach_in_turn (f : Realm → Realm) (ps : Selector) (w : World) :
    w.onEach ps.everyone f =
      ps.everyone.foldl (fun w (p : Player) => w.onEach (Selector.one p).everyone f) w := by
  simp only [Selector.everyone_one]
  rfl

theorem forPlayers_in_turn (f : Player → World → Logged World) (ps : Selector) (w : World) :
    (forPlayers f ps.everyone w).value =
      ps.everyone.foldl (fun w (p : Player) => (forPlayers f (Selector.one p).everyone w).value) w := by
  simp only [Selector.everyone_one]
  exact value_forPlayers f ps.everyone w

theorem shownHere_eq (w : World) (ps : Selector) :
    w.shownHere ps = ps.everyone.any (·.val == w.myPlayer) := by
  rw [Bool.eq_iff_iff, List.any_eq_true, shownHere, Bool.and_eq_true, decide_eq_true_eq]
  constructor
  · rintro ⟨seated, meant⟩
    exact ⟨⟨w.myPlayer, seated⟩, Selector.mem_everyone.2 meant, beq_self_eq_true w.myPlayer⟩
  · rintro ⟨p, named, here⟩
    have here : p.val = w.myPlayer := beq_iff_eq.1 here
    exact ⟨here ▸ p.isLt, here ▸ Selector.mem_everyone.1 named⟩

/-- A message sent to players one by one is shown once, if this machine's player is one of them. -/
theorem display_each (m : Message) (players : List Player) (once : players.Nodup) (w : World) :
    players.foldl (fun w p => w.display (.one p) m) w =
      if players.any (·.val == w.myPlayer) then { w with messages := w.messages.push m } else w := by
  have one (w : World) (p : Player) : w.shownHere (.one p) = (p.val == w.myPlayer) := by
    rw [shownHere_eq, Selector.everyone_one, List.any_cons, List.any_nil, Bool.or_false]
  induction players generalizing w with
  | nil => rfl
  | cons p rest ih =>
    obtain ⟨fresh, restOnce⟩ := List.nodup_cons.1 once
    rw [List.foldl_cons, List.any_cons]
    by_cases mine : p.val = w.myPlayer
    · -- nobody else in the list is at this machine
      have later : rest.any (·.val == w.myPlayer) = false := by
        rw [List.any_eq_false]
        intro q there also
        exact fresh (Fin.ext (mine.trans (beq_iff_eq.1 also).symm) ▸ there)
      have here : (p.val == w.myPlayer) = true := beq_iff_eq.2 mine
      have shown : w.display (.one p) m = { w with messages := w.messages.push m } :=
        if_pos ((one w p).trans here)
      rw [shown, here, ih restOnce]
      exact if_neg (ne_true_of_eq_false later)
    · have away : (p.val == w.myPlayer) = false := beq_eq_false_iff_ne.2 mine
      have hidden : w.display (.one p) m = w := if_neg (ne_true_of_eq_false ((one w p).trans away))
      rw [hidden, away, Bool.false_or]
      exact ih restOnce w

theorem display_in_turn (m : Message) (ps : Selector) (w : World) :
    w.display ps m = ps.everyone.foldl (fun w p => w.display (.one p) m) w := by
  rw [display_each m _ (Selector.everyone_nodup ps), display, shownHere_eq]

end World

namespace Effect

theorem value_playMessage (script : Script) (ps : Selector) (channel : Channel) (number : Int)
    (w : World) : ((playMessage ps channel number).apply script w).value =
      w.display ps (channel.message number) := by
  cases channel <;> rfl

/-- The places that can be shown are the same after showing one. -/
theorem value_revealPlace (script : Script) (ps : Selector) {place : Place} (range : Int) {w : World}
    {x y : Int} (there : w.visibleCoords? place = some (x, y)) :
    ((revealPlace ps place range).apply script w).value =
      ps.everyone.foldl (fun w p => w.reveal x y range range p) w := by
  simp only [apply, there]
  exact World.value_forPlayers _ _ w

theorem value_revealPlace_of_none (script : Script) (ps : Selector) {place : Place} (range : Int)
    {w : World} (nowhere : w.visibleCoords? place = none) :
    ((revealPlace ps place range).apply script w).value = w := by
  simp only [apply, nowhere]
  rfl

open World in
/-- An effect with an address is carried out on one player after the other. -/
theorem apply_in_turn (script : Script) (e : Effect) {ps : Selector} (w : World)
    (address : e.players? = some ps) : (e.apply script w).value =
      ps.everyone.foldl (fun w (p : Player) => ((e.addressed (.one p)).apply script w).value) w := by
  cases e with
  | setHate => cases address; exact onEach_in_turn _ ps w
  | research => cases address; exact onEach_in_turn _ ps w
  | researchOrder => cases address; exact onEach_in_turn _ ps w
  | setFlag => cases address; exact onEach_in_turn _ ps w
  | maxCreatures => cases address; exact onEach_in_turn _ ps w
  | setMaxLevel => cases address; exact onEach_in_turn _ ps w
  | addGold => cases address; exact onEach_in_turn _ ps w
  | setTendency => cases address; exact onEach_in_turn _ ps w
  | available => cases address; exact forPlayers_in_turn _ ps w
  | revealRect => cases address; exact forPlayers_in_turn _ ps w
  | kill => cases address; exact forPlayers_in_turn _ ps w
  | setTimer _ timer =>
    cases address
    -- the turn that is written down is the same for every player
    let set (turn : Nat) : Realm → Realm := Realm.onDungeon fun d =>
      { d with timers := updateAt d.timers (slotOf timerCount_pos timer) fun _ => ⟨true, turn⟩ }
    refine (onEach_in_turn (set w.turn) ps w).trans (foldl_eq_while (·.turn = w.turn) ?_ ?_ _ rfl)
    · intro x p now
      exact (congrArg Frame.turn (onEach_frame _ _ x)).trans now
    · intro x p now
      show _ = x.onEach (Selector.one p).everyone (set x.turn)
      rw [now]
  | playMessage _ channel number =>
    cases address
    simp only [addressed, value_playMessage]
    exact display_in_turn _ ps w
  | revealPlace _ place range =>
    cases address
    -- where the place is does not depend on what has been shown
    cases there : w.visibleCoords? place with
    | some c =>
      rw [value_revealPlace script ps range there]
      refine foldl_eq_while (·.visibleCoords? place = some c) ?_ ?_ _ there
      · intro x p now
        exact now
      · intro x p now
        rw [addressed, value_revealPlace script (.one p) range now, Selector.everyone_one]
        rfl
    | none =>
      rw [value_revealPlace_of_none script ps range there]
      symm
      apply List.foldl_fixed'
      intro p
      exact value_revealPlace_of_none script (.one p) range there
  | _ => cases address

/-- **An effect on all players is that effect on each of them in turn**, keepers first and the
    heroes last, whatever the effect and whatever the world. A message for all players is shown
    once if the player at this machine is one of the five, and not at all otherwise. -/
theorem all_players_in_turn (script : Script) (e : Effect) (w : World)
    (everyone : e.players? = some .all) :
    (e.apply script w).value = ([0, 1, 2, 3, 4] : List Player).foldl
      (fun w (p : Player) => ((e.addressed (.one p)).apply script w).value) w ∧
    ∀ channel number, e = .playMessage .all channel number →
      (e.apply script w).value.messages =
        if w.myPlayer < playerCount then w.messages.push (channel.message number)
        else w.messages := by
  constructor
  · exact apply_in_turn script e w everyone
  · rintro channel number rfl
    rw [value_playMessage]
    unfold World.display World.shownHere Selector.includes
    simp only [Bool.and_true, decide_eq_true_eq]
    split <;> rfl

/-- Five players are told in turn, and the message stands there once. -/
theorem told_in_turn_once : (([0, 1, 2, 3, 4] : List Player).foldl
    (fun w (p : Player) => ((playMessage (.one p) .speech 7).apply .empty w).value)
    .fresh).messages = #[.speech 7] := by
  obtain ⟨inTurn, once⟩ := all_players_in_turn .empty (.playMessage .all .speech 7) .fresh rfl
  exact (congrArg World.messages inTurn).symm.trans (once .speech 7 rfl)

end Effect

/-! ## Everyone else -/

/-- What the game keeps of one player. -/
structure Holdings where
  realm : Realm
  /-- The player's creatures, dead ones among them, under their numbers. -/
  creatures : Nat → Option Creature

namespace World

def holdings (w : World) (q : Player) : Holdings where
  realm := w.realm q
  creatures := fun id => (w.creature? id).filter (·.owner == q)

section Holdings

variable {w w' : World} {p q : Player}

theorem holdings_congr (realm : w'.realm q = w.realm q)
    (creatures : ∀ id, (w'.creature? id).filter (·.owner == q) =
      (w.creature? id).filter (·.owner == q)) : w'.holdings q = w.holdings q := by
  unfold holdings
  rw [realm, funext creatures]

theorem holdings_onRealm (f : Realm → Realm) (other : p ≠ q) :
    (w.onRealm p f).holdings q = w.holdings q :=
  holdings_congr (realm_onRealm_of_ne w f other) fun _ => rfl

theorem holdings_onEach (f : Realm → Realm) {players : List Player} (absent : q ∉ players) :
    (w.onEach players f).holdings q = w.holdings q := by
  refine onEach_keeps (k := fun w => w.holdings q) (fun p there w => ?_) w
  exact holdings_onRealm f fun same => absent (same ▸ there)

theorem holdings_forPlayers {f : Player → World → Logged World}
    (each : ∀ p w, p ≠ q → (f p w).value.holdings q = w.holdings q) {players : List Player}
    (absent : q ∉ players) : (forPlayers f players w).value.holdings q = w.holdings q := by
  refine forPlayers_keeps (k := fun w => w.holdings q) (fun p there w => ?_) w
  exact each p w fun same => absent (same ▸ there)

theorem holdings_give (stock : Stock) (item : Nat) (first second : Int) (other : p ≠ q) :
    (give stock item first second p w).value.holdings q = w.holdings q := by
  rcases give_gift stock item first second p w with same | ⟨f, _, same⟩
  · rw [same]
  · rw [same]
    exact holdings_onRealm f other

theorem holdings_allyTo {a : Nat} (b : Nat) (apart : q ∉ (playerAt? a).toList) :
    (w.allyTo a b).holdings q = w.holdings q := by
  unfold allyTo
  split
  · rename_i p _ here _
    rw [here] at apart
    exact holdings_onRealm _ fun same => apart (same ▸ List.mem_singleton.2 rfl)
  · rfl

/-- A creature that dies was nobody else's before and is nobody else's now. -/
theorem holdings_killOne {id : Nat} {c : Creature} (here : w.creature? id = some c)
    (owner : c.owner = p) (other : p ≠ q) : (killOne p w id).holdings q = w.holdings q := by
  refine holdings_congr (realm_onRealm_of_ne _ _ other) fun i => ?_
  by_cases same : id = i
  · subst same
    have foreign : (c.owner == q) = false := beq_eq_false_iff_ne.2 (owner ▸ other)
    have dead : (killOne p w id).creature? id = some { c with alive := false } :=
      creature?_onCreature_self here _
    rw [dead, here, Option.filter_some, Option.filter_some, foreign]
    rfl
  · rw [creature?_killOne_of_ne same]

theorem holdings_killOnes {ids : List Nat}
    (owned : ∀ id ∈ ids, ∃ c, w.creature? id = some c ∧ c.owner = p) (other : p ≠ q) :
    (ids.foldl (killOne p) w).holdings q = w.holdings q := by
  induction ids generalizing w with
  | nil => rfl
  | cons id rest ih =>
    obtain ⟨c, here, owner⟩ := owned id List.mem_cons_self
    refine (ih fun later inRest => ?_).trans (holdings_killOne here owner other)
    obtain ⟨c', here', owner'⟩ := owned later (List.mem_cons_of_mem id inRest)
    by_cases same : id = later
    · subst same
      exact ⟨_, creature?_onCreature_self here _, owner⟩
    · exact ⟨c', (creature?_killOne_of_ne same).trans here', owner'⟩

theorem holdings_killNoted (kind : Nat) (order : KillOrder) (count : Int) (other : p ≠ q) :
    (killNoted kind order count p w).value.holdings q = w.holdings q := by
  have victims := (w.victims_spec p kind order count).2
  refine holdings_killOnes (fun id victim => ?_) other
  obtain ⟨c, here, _, owner⟩ := victims id victim
  exact ⟨c, here, owner⟩

theorem holdings_resetPoint (number : Nat) : (w.resetPoint number).holdings q = w.holdings q := by
  unfold resetPoint
  split <;> rfl

theorem holdings_display (ps : Selector) (m : Message) :
    (w.display ps m).holdings q = w.holdings q := by
  unfold display
  split <;> rfl

end Holdings

end World

namespace Effect

open World in
/-- A player whom an effect is not about keeps realm and creatures. -/
theorem holdings_apply (script : Script) (e : Effect) (w : World) {q : Player}
    (apart : q ∉ e.subjects) : (e.apply script w).value.holdings q = w.holdings q := by
  cases e with
  | setHate => exact holdings_onEach _ apart
  | research => exact holdings_onEach _ apart
  | researchOrder => exact holdings_onEach _ apart
  | setTimer => exact holdings_onEach _ apart
  | setFlag => exact holdings_onEach _ apart
  | maxCreatures => exact holdings_onEach _ apart
  | setMaxLevel => exact holdings_onEach _ apart
  | addGold => exact holdings_onEach _ apart
  | setTendency => exact holdings_onEach _ apart
  | available ps stock item first second =>
    exact holdings_forPlayers (fun p w other => holdings_give stock item first second other) apart
  | revealRect => exact holdings_forPlayers (fun p w other => rfl) apart
  | revealPlace ps place range =>
    simp only [apply]
    split
    · exact holdings_forPlayers (fun p w other => rfl) apart
    · rfl
  | kill ps kind order count =>
    exact holdings_forPlayers (fun p w other => holdings_killNoted kind order count other) apart
  | ally a b =>
    obtain ⟨first, second⟩ := not_or.1 (mt List.mem_append.2 apart)
    exact (holdings_allyTo a second).trans (holdings_allyTo b first)
  | playMessage => rw [value_playMessage]; exact holdings_display _ _
  | displayObjective => exact holdings_display _ _
  | displayInformation => exact holdings_display _ _
  | quickObjective => exact holdings_display _ _
  | quickInformation => exact holdings_display _ _
  | resetActionPoint number => exact holdings_resetPoint number
  | setGenerateSpeed => rfl
  | addToPool => rfl
  | flashButton => rfl
  | setStat => rfl
  | deadReturnToPool => rfl
  | bonusTime => rfl

theorem subjects_eq {e : Effect} (noAlly : ∀ a b, e ≠ ally a b) :
    e.subjects = (e.players?.map Selector.everyone).getD [] := by
  cases e with
  | ally a b => exact absurd rfl (noAlly a b)
  | _ => rfl

theorem not_mem_playerAt? {slot : Nat} {q : Player} (other : q.val ≠ slot) :
    q ∉ (World.playerAt? slot).toList := by
  unfold World.playerAt?
  split
  · intro same
    rw [List.mem_singleton.1 same] at other
    exact other rfl
  · exact List.not_mem_nil

/-- **An effect touches nobody it is not about**: neither the realm, with dungeon, research list,
    tendencies and what is available, nor the creatures. An effect for one player leaves everyone
    else alone, an alliance everyone but its two sides, and an effect that names no player
    everyone. -/
theorem others_keep_holdings (script : Script) (e : Effect) (w : World) (q : Player) :
    (∀ slot, e.players? = some (.one slot) → q.val ≠ slot →
      (e.apply script w).value.holdings q = w.holdings q) ∧
    (∀ a b, e = .ally a b → q.val ≠ a → q.val ≠ b →
      (e.apply script w).value.holdings q = w.holdings q) ∧
    (e.players? = none → (∀ a b, e ≠ .ally a b) →
      (e.apply script w).value.holdings q = w.holdings q) := by
  refine ⟨?_, ?_, ?_⟩
  · intro slot address other
    apply holdings_apply
    rw [subjects_eq (by rintro a b rfl; cases address), address]
    intro named
    exact other (beq_iff_eq.1 (Selector.mem_everyone.1 named)).symm
  · rintro a b rfl first second
    apply holdings_apply
    intro side
    rcases List.mem_append.1 side with side | side
    · exact not_mem_playerAt? first side
    · exact not_mem_playerAt? second side
  · intro address noAlly
    apply holdings_apply
    rw [subjects_eq noAlly, address]
    exact List.not_mem_nil

/-- A creature of player 1 is killed, and player 0 keeps its own of the same kind; players 0 and 1
    become allies, and player 2 keeps what it has; a button flashes, and player 3 keeps what it has. -/
theorem others_keep_holdings_apart :
    let w : World := { World.fresh with creatures :=
      #[World.newborn 0 5 (.heart 0), World.newborn 1 5 (.heart 1)] }
    let killed := ((kill (.one 1) 5 .anywhere 2).apply .empty w).value
    (killed.creatures ≠ w.creatures ∧ killed.holdings 0 = w.holdings 0) ∧
    ((ally 0 1).apply .empty w).value.holdings 2 = w.holdings 2 ∧
    ((flashButton 1 2).apply .empty w).value.holdings 3 = w.holdings 3 := by
  refine ⟨⟨by decide, ?_⟩, ?_, ?_⟩
  · exact (others_keep_holdings .empty _ _ 0).1 1 rfl (by decide)
  · exact (others_keep_holdings .empty _ _ 2).2.1 0 1 rfl (by decide) (by decide)
  · exact (others_keep_holdings .empty _ _ 3).2.2 rfl fun _ _ => by rintro ⟨⟩

end Effect

end DungeonScript
