import DungeonScript.Proofs.World.Frame

/-!
Research lists. What a player has to research is a list, which a script can add to and replace
(`Agenda`). Effects alone change it: one that sets the amount of an item lists it if it is new, and
one that orders an item lists it in any case. The first order drops what the player started with.
`Agenda.after` says how, with the operations on realms; what an effect does to the list of a player
in a world is what it says there (`agenda_apply`).
-/

namespace DungeonScript

/-- The research list of a player, and whether a script has replaced the one at the start. -/
structure Agenda where
  items : Array ResearchItem
  replaced : Bool
  deriving DecidableEq

namespace Realm

def agenda (r : Realm) : Agenda := ⟨r.research, r.researchReplaced⟩

theorem agenda_of_spared {f : Realm → Realm} (spares : SparesResearch f) (r : Realm) :
    (f r).agenda = r.agenda := by
  obtain ⟨items, replaced⟩ := spares r
  unfold agenda
  rw [items, replaced]

theorem agenda_lasting : Lasting agenda where
  unpeopled _ := rfl
  newLevel _ := rfl
  setUp setsUp := agenda_of_spared setsUp.research

end Realm

/-- The effect orders an item of player `p` to be researched. -/
def Effect.ordersFor (p : Player) : Effect → Bool
  | researchOrder ps _ _ _ => ps.includes p
  | _ => false

namespace Agenda

/-- A realm with this research list and nothing else. -/
def realm (a : Agenda) : Realm :=
  { Realm.fresh with research := a.items, researchReplaced := a.replaced }

/-- The research list of player `p` after an effect. -/
def after (p : Player) (a : Agenda) : Effect → Agenda
  | .research ps kind item amount =>
    if ps.includes p then (a.realm.setResearch kind item amount).agenda else a
  | .researchOrder ps kind item amount =>
    if ps.includes p then (a.realm.orderResearch kind item amount).agenda else a
  | _ => a

/-- The research list of player `p` after a row of effects. -/
def afterAll (p : Player) (a : Agenda) (effects : List Effect) : Agenda := effects.foldl (after p) a

/-- An order makes the list longer by one, or the only item of a new one. -/
theorem size_after_order {p : Player} {e : Effect} (orders : e.ordersFor p = true) (a : Agenda) :
    (a.after p e).items.size = (if a.replaced then a.items.size else 0) + 1 := by
  cases e with
  | researchOrder ps kind item amount =>
    have named : ps.includes p = true := orders
    simp only [after, named, if_true, Realm.agenda, Realm.orderResearch, Array.size_push]
    show (if a.replaced then a.items else #[]).size + 1 = _
    split <;> rfl
  | _ => cases orders

end Agenda

namespace World

def agenda (w : World) (p : Player) : Agenda := (w.realm p).agenda

/-- What is done to the players named is done to the list of each. -/
theorem agenda_onEveryone (ps : Selector) (f : Realm → Realm) (w : World) (p : Player) :
    (w.onEach ps.everyone f).agenda p =
      if ps.includes p then (f (w.realm p)).agenda else w.agenda p := by
  unfold agenda
  rw [realm_onEach_everyone]
  split <;> rfl

end World

open World in
theorem Effect.agenda_apply (script : Script) (e : Effect) (w : World) (p : Player) :
    (e.apply script w).value.agenda p = (w.agenda p).after p e := by
  have others (aside : e.aboutResearch = false) :
      (e.apply script w).value.agenda p = w.agenda p :=
    Realm.agenda_lasting.effect_apply
      (fun spares => Realm.agenda_of_spared (spares.research aside)) script w p
  cases e with
  | research ps kind item amount => exact agenda_onEveryone ps _ w p
  | researchOrder ps kind item amount => exact agenda_onEveryone ps _ w p
  | _ => exact others rfl

end DungeonScript
