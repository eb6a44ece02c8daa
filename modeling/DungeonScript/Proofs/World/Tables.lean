import DungeonScript.Proofs.Command.Figures
import DungeonScript.Proofs.World.Frame

/-!
Items and the cells that are kept for them. The numbers of items come from name tables, which
may hold any; the game has tables of fixed size, and catalogues of what a player was given. A
line about an item writes the cells its number falls on (`Cell.isOf`): in a catalogue its own
entry, in a table a slot that other numbers fall on as well, for a number past the last slot
wraps around. Creatures and powers past the last type are refused before anything is written;
the other items are not.

What an effect about an item does to the cells of the game is `Effect.cell_apply`. A cell that
changes is the item's own if the number is that of a type there is; if it is not, what changes
is the cell of another item (`own_cell_iff`).
-/

namespace DungeonScript

/-! ## Stocks -/

namespace Stock

/-- How many types of items of a stock there are. -/
def types : Stock → Nat
  | room => roomTypes
  | creature => creatureTypes
  | magic => powerTypes
  | trap => trapTypes
  | door => doorTypes

/-- Whether an item of this number is given to players who are to have it. -/
def gives (item : Nat) : Stock → Bool
  | creature => item < creatureTypes
  | magic => item < powerTypes
  | room | trap | door => true

end Stock

def Names.ofStock (n : Names) : Stock → NameTable
  | .room => n.rooms
  | .creature => n.creatures
  | .magic => n.powers
  | .trap => n.traps
  | .door => n.doors

/-! ## Slots -/

theorem slot_of_lt {n k : Nat} {pos : 0 < n} {i : Fin n} (slot : slotOf pos k = i) (h : k < n) :
    i.val = k := by
  subst slot
  exact Nat.mod_eq_of_lt h

/-! ## Cells -/

/-- What the game keeps for one player about one item. The last three are the entries, under
    numbers of any size, of what was given. -/
inductive RealmCell where
  | maxLevel (kind : Fin creatureTypes)
  | room (room : Fin roomTypes)
  | trap (trap : Fin trapTypes)
  | door (door : Fin doorTypes)
  | power (power : Fin powerTypes)
  | givenRoom (room : Nat)
  | givenCreature (kind : Nat)
  | givenPower (power : Nat)
  deriving DecidableEq

namespace RealmCell

/-- The number of the item that the cell is kept for. -/
def number : RealmCell → Nat
  | maxLevel i => i.val
  | room i => i.val
  | trap i => i.val
  | door i => i.val
  | power i => i.val
  | givenRoom item | givenCreature item | givenPower item => item

def isOf (k : Nat) : RealmCell → Bool
  | maxLevel i => slotOf creatureTypes_pos k == i
  | room i => slotOf roomTypes_pos k == i
  | trap i => slotOf trapTypes_pos k == i
  | door i => slotOf doorTypes_pos k == i
  | power i => slotOf powerTypes_pos k == i
  | givenRoom item | givenCreature item | givenPower item => k == item

/-- Whether the cell is for the highest level of a creature kind. -/
def caps : RealmCell → Bool
  | maxLevel _ => true
  | _ => false

/-- Whether the cell tells what was given of a stock. -/
def keeps : Stock → RealmCell → Bool
  | .room, room _ | .room, givenRoom _ => true
  | .creature, givenCreature _ => true
  | .magic, power _ | .magic, givenPower _ => true
  | .trap, trap _ => true
  | .door, door _ => true
  | _, _ => false

/-- What the cell holds once an item with these two numbers is given. -/
def given (first second : Int) (old : List Int) : RealmCell → List Int
  | maxLevel _ => old
  | room _ | power _ => [second]
  | trap _ | door _ => [first, second, if second ≠ 0 then second else old.getD 2 0]
  | givenRoom _ | givenCreature _ | givenPower _ => [first, second]

theorem number_of_isOf {stock : Stock} {k : Nat} {x : RealmCell} (kept : x.keeps stock = true)
    (known : k < stock.types) (falls : x.isOf k = true) : x.number = k := by
  cases stock with
  | room =>
    cases x with
    | room i => exact slot_of_lt (eq_of_beq falls) known
    | givenRoom => exact (eq_of_beq falls).symm
    | _ => cases kept
  | creature =>
    cases x with
    | givenCreature => exact (eq_of_beq falls).symm
    | _ => cases kept
  | magic =>
    cases x with
    | power i => exact slot_of_lt (eq_of_beq falls) known
    | givenPower => exact (eq_of_beq falls).symm
    | _ => cases kept
  | trap =>
    cases x with
    | trap i => exact slot_of_lt (eq_of_beq falls) known
    | _ => cases kept
  | door =>
    cases x with
    | door i => exact slot_of_lt (eq_of_beq falls) known
    | _ => cases kept

end RealmCell

/-- What the game keeps about one item. -/
inductive Cell where
  | statistic (stat : Stat) (kind : Fin creatureTypes)
  | pool (kind : Fin creatureTypes)
  | owned (p : Player) (cell : RealmCell)
  deriving DecidableEq

namespace Cell

/-- The number of the item that the cell is kept for. -/
def number : Cell → Nat
  | statistic _ i => i.val
  | pool i => i.val
  | owned _ cell => cell.number

def isOf (k : Nat) : Cell → Bool
  | statistic _ i => slotOf creatureTypes_pos k == i
  | pool i => slotOf creatureTypes_pos k == i
  | owned _ cell => cell.isOf k

end Cell

/-- The numbers under `k`, none if there is no entry. -/
def Catalogue.numbers (c : Catalogue (Int × Int)) (k : Nat) : List Int :=
  match c.get? k with
  | some e => [e.1, e.2]
  | none => []

def Realm.cell (r : Realm) : RealmCell → List Int
  | .maxLevel i => [r.dungeon.maxLevel.get i]
  | .room i => [r.dungeon.roomBuildable.get i]
  | .trap i => [r.dungeon.trapBuildable.get i, r.dungeon.trapAmount.get i,
      r.dungeon.trapPlaceable.get i]
  | .door i => [r.dungeon.doorBuildable.get i, r.dungeon.doorAmount.get i,
      r.dungeon.doorPlaceable.get i]
  | .power i => [r.dungeon.powerLevel.get i]
  | .givenRoom item => r.rooms.numbers item
  | .givenCreature item => r.creatures.numbers item
  | .givenPower item => r.powers.numbers item

def World.cell (w : World) : Cell → List Int
  | .statistic stat i => [(w.stats.get i).get stat]
  | .pool i => [w.pool.get i]
  | .owned p cell => (w.realm p).cell cell

/-! ## Giving -/

theorem Catalogue.numbers_put (c : Catalogue (Int × Int)) (k item : Nat) (e : Int × Int) :
    (c.put k e).numbers item = if k == item then [e.1, e.2] else c.numbers item := by
  unfold numbers
  by_cases same : k = item
  · subst same
    simp only [get?_put_self, BEq.rfl, if_true]
  · rw [get?_put_of_ne c e same, if_neg (by simpa using same)]

namespace Realm

/-- The realm with an item of a stock given. -/
def give (stock : Stock) (item : Nat) (first second : Int) : Realm → Realm :=
  match stock with
  | .room => giveRoom item first second
  | .creature => giveCreature item first second
  | .magic => givePower item first second
  | .trap => giveTrap item first second
  | .door => giveDoor item first second

theorem cell_give (stock : Stock) (item : Nat) (first second : Int) (r : Realm) (x : RealmCell) :
    (r.give stock item first second).cell x =
      if x.keeps stock && x.isOf item then x.given first second (r.cell x) else r.cell x := by
  -- A cell of another stock is in a field that the gift does not mention.
  cases stock with
  | room =>
    cases x with
    | room i =>
      simp only [give, giveRoom, cell, get_updateAt, RealmCell.keeps, RealmCell.isOf,
        RealmCell.given, Bool.true_and]
      split <;> rfl
    | givenRoom other => exact r.rooms.numbers_put item other _
    | _ => rfl
  | creature =>
    cases x with
    | givenCreature other => exact r.creatures.numbers_put item other _
    | _ => rfl
  | magic =>
    cases x with
    | power i =>
      simp only [give, givePower, cell, get_updateAt, RealmCell.keeps, RealmCell.isOf,
        RealmCell.given, Bool.true_and]
      split <;> rfl
    | givenPower other => exact r.powers.numbers_put item other _
    | _ => rfl
  | trap =>
    cases x with
    | trap i =>
      simp only [give, giveTrap, onDungeon, cell, get_updateAt, RealmCell.keeps, RealmCell.isOf,
        RealmCell.given, Bool.true_and]
      split <;> rfl
    | _ => rfl
  | door =>
    cases x with
    | door i =>
      simp only [give, giveDoor, onDungeon, cell, get_updateAt, RealmCell.keeps, RealmCell.isOf,
        RealmCell.given, Bool.true_and]
      split <;> rfl
    | _ => rfl

/-- The realm with the highest level of a creature kind set. -/
def cap (kind : Nat) (level : Int) : Realm → Realm :=
  onDungeon fun d => { d with
    maxLevel := updateAt d.maxLevel (slotOf creatureTypes_pos kind) fun _ => level }

theorem cell_cap (kind : Nat) (level : Int) (r : Realm) (x : RealmCell) :
    (r.cap kind level).cell x = if x.caps && x.isOf kind then [level] else r.cell x := by
  cases x with
  | maxLevel i =>
    simp only [cap, onDungeon, cell, get_updateAt, RealmCell.caps, RealmCell.isOf, Bool.true_and]
    split <;> rfl
  | _ => rfl

end Realm

namespace World

theorem value_give (stock : Stock) (item : Nat) (first second : Int) (p : Player) (w : World) :
    (give stock item first second p w).value =
      if stock.gives item then w.onRealm p (Realm.give stock item first second) else w := by
  cases stock with
  | room | trap | door => rfl
  | creature | magic =>
    simp only [give, Stock.gives, decide_eq_true_eq]
    split <;> rfl

theorem forPlayers_give (stock : Stock) (item : Nat) (first second : Int) (players : List Player)
    (w : World) : (forPlayers (give stock item first second) players w).value =
      if stock.gives item then w.onEach players (Realm.give stock item first second) else w := by
  split
  · rename_i given
    simp only [value_forPlayers, value_give, given, if_true]
    rfl
  · rename_i refused
    have unchanged (p : Player) (w : World) : (give stock item first second p w).value = w :=
      (value_give stock item first second p w).trans (if_neg refused)
    exact forPlayers_keeps (k := id) (fun p _ => unchanged p) w

theorem cell_onEach (ps : Selector) (f : Realm → Realm) (w : World) (p : Player) (x : RealmCell) :
    (w.onEach ps.everyone f).cell (.owned p x) =
      if ps.includes p then (f (w.realm p)).cell x else (w.realm p).cell x := by
  show ((w.onEach ps.everyone f).realm p).cell x = _
  rw [realm_onEach_everyone]
  split <;> rfl

end World

/-! ## Effects -/

namespace Effect

/-- The item an effect is about, if it writes cells of one. -/
def item? : Effect → Option (Stock × Nat)
  | setStat kind _ _ | addToPool kind _ | setMaxLevel _ kind _ => some (.creature, kind)
  | available _ stock item _ _ => some (stock, item)
  | _ => none

/-- Whether the effect writes to the table or catalogue of the cell. -/
def writes : Effect → Cell → Bool
  | setStat _ stat _, .statistic other _ => stat == other
  | addToPool _ _, .pool _ => true
  | setMaxLevel ps _ _, .owned p cell => ps.includes p && cell.caps
  | available ps stock item _ _, .owned p cell =>
    stock.gives item && (ps.includes p && cell.keeps stock)
  | _, _ => false

/-- What the effect makes of the numbers in a cell that it writes. -/
def entered (old : List Int) : Effect → Cell → List Int
  | setStat _ stat value, _ => [clamp stat.least stat.greatest value]
  | addToPool _ amount, _ => old.map fun n => saturate (n + amount)
  | setMaxLevel _ _ level, _ => [level]
  | available _ _ _ first second, .owned _ cell => cell.given first second old
  | _, _ => old

/-- **What an effect about an item does.** Of the cells in its tables it writes those that the
    number of the item falls on, and no others. -/
theorem cell_apply {e : Effect} {stock : Stock} {k : Nat} (about : e.item? = some (stock, k))
    (script : Script) (w : World) (x : Cell) : (e.apply script w).value.cell x =
      if e.writes x && x.isOf k then e.entered (w.cell x) x else w.cell x := by
  cases e with
  | setStat kind stat value =>
    obtain ⟨rfl, rfl⟩ := Prod.mk.inj (Option.some.inj about)
    cases x with
    | statistic other i =>
      have set := w.get_setStat kind stat value i other
      simp only [apply, Logged.value_pure, World.cell, set, writes, Cell.isOf, entered,
        Bool.and_eq_true, beq_iff_eq, and_comm, eq_comm (a := other)]
      split <;> rfl
    | _ => rfl
  | addToPool kind amount =>
    obtain ⟨rfl, rfl⟩ := Prod.mk.inj (Option.some.inj about)
    cases x with
    | pool i =>
      simp only [apply, Logged.value_pure, World.addToPool, World.cell, get_updateAt, writes,
        Cell.isOf, Bool.true_and, entered]
      split <;> rfl
    | _ => rfl
  | setMaxLevel ps kind level =>
    obtain ⟨rfl, rfl⟩ := Prod.mk.inj (Option.some.inj about)
    show (w.onEach ps.everyone (Realm.cap kind level)).cell x = _
    cases x with
    | owned p y =>
      rw [World.cell_onEach, Realm.cell_cap]
      cases named : ps.includes p.val <;> simp [writes, Cell.isOf, entered, named, World.cell]
    | _ =>
      rw [World.onEach_eq]
      rfl
  | available ps stock item first second =>
    obtain ⟨rfl, rfl⟩ := Prod.mk.inj (Option.some.inj about)
    simp only [apply, World.forPlayers_give]
    cases carried : stock.gives item with
    | true =>
      rw [if_pos rfl]
      cases x with
      | owned p y =>
        rw [World.cell_onEach, Realm.cell_give]
        cases named : ps.includes p.val <;>
          simp [writes, Cell.isOf, entered, carried, named, World.cell]
      | _ =>
        rw [World.onEach_eq]
        rfl
    | false =>
      -- A refused gift counts as one without tables.
      have unwritten : (available ps stock item first second).writes x = false := by
        cases x <;> simp [writes, carried]
      rw [unwritten]
      rfl
  | _ => cases about

theorem number_of_isOf {e : Effect} {stock : Stock} {k : Nat} (about : e.item? = some (stock, k))
    (known : k < stock.types) {x : Cell} (written : e.writes x = true) (falls : x.isOf k = true) :
    x.number = k := by
  cases e with
  | setStat kind stat value =>
    obtain ⟨rfl, rfl⟩ := Prod.mk.inj (Option.some.inj about)
    cases x with
    | statistic other i => exact slot_of_lt (eq_of_beq falls) known
    | _ => cases written
  | addToPool kind amount =>
    obtain ⟨rfl, rfl⟩ := Prod.mk.inj (Option.some.inj about)
    cases x with
    | pool i => exact slot_of_lt (eq_of_beq falls) known
    | _ => cases written
  | setMaxLevel ps kind level =>
    obtain ⟨rfl, rfl⟩ := Prod.mk.inj (Option.some.inj about)
    cases x with
    | owned p y =>
      obtain ⟨_, caps⟩ := (Bool.and_eq_true _ _).mp written
      cases y with
      | maxLevel i => exact slot_of_lt (eq_of_beq falls) known
      | _ => cases caps
    | _ => cases written
  | available ps stock item first second =>
    obtain ⟨rfl, rfl⟩ := Prod.mk.inj (Option.some.inj about)
    cases x with
    | owned p y =>
      simp only [writes, Bool.and_eq_true] at written
      exact y.number_of_isOf written.2.2 known falls
    | _ => simp [writes] at written
  | _ => cases about

end Effect

/-! ## Lines -/

/-- The stock of the item that a line is about, and the word that names it. -/
def Verb.itemWord? : Verb → Option (Stock × Nat)
  | .setCreatureHealth | .setCreatureStrength | .setCreatureArmour | .setCreatureFear
  | .addCreatureToPool => some (.creature, 0)
  | .setCreatureMaxLevel | .creatureAvailable => some (.creature, 1)
  | .roomAvailable => some (.room, 1)
  | .magicAvailable => some (.magic, 1)
  | .trapAvailable => some (.trap, 1)
  | .doorAvailable => some (.door, 1)
  | _ => none

namespace Command

open Reading

variable {w : World} {s : Script} {l : ScriptLine}

/-- What a line comes to is an effect on the item under the number its name has. -/
def About (n : Names) (stock : Stock) (name : String) (c : Command) : Prop :=
  ∃ e k, c = .effect e ∧ e.item? = some (stock, k) ∧ (n.ofStock stock).find? name = some k

theorem creature_gives (name : String) :
    (creature w name).Gives fun k => w.names.creatures.find? name = some k :=
  gives_ofOption.2 fun _ named => named

theorem stocked_gives (stock : Stock) (name : String) :
    (stocked w stock name).Gives fun k => (w.names.ofStock stock).find? name = some k := by
  cases stock <;> exact gives_ofOption.2 fun _ named => named

theorem available_about (stock : Stock) :
    (available w l stock).Gives (About w.names stock (l.word 1)) := by
  refine .after fun players => (stocked_gives stock _).bind fun k named => ?_
  exact (gives_pure _).2 ⟨_, k, rfl, rfl, named⟩

theorem creatureStat_about (stat : Stat) :
    (creatureStat w l stat).Gives (About w.names .creature (l.word 0)) := by
  refine (creature_gives _).bind fun k named => .after fun _ => ?_
  exact (gives_pure _).2 ⟨_, k, rfl, rfl, named⟩

theorem resolve_about {stock : Stock} {i : Nat} (about : l.verb.itemWord? = some (stock, i)) :
    (resolve w s l).Gives (About w.names stock (l.word i)) := by
  cases verb : l.verb with
  | setCreatureHealth | setCreatureStrength | setCreatureArmour | setCreatureFear =>
    rw [verb] at about
    obtain ⟨rfl, rfl⟩ := Prod.mk.inj (Option.some.inj about)
    simp only [resolve, verb]
    exact creatureStat_about _
  | roomAvailable | creatureAvailable | magicAvailable | trapAvailable | doorAvailable =>
    rw [verb] at about
    obtain ⟨rfl, rfl⟩ := Prod.mk.inj (Option.some.inj about)
    simp only [resolve, verb]
    exact available_about _
  | addCreatureToPool =>
    rw [verb] at about
    obtain ⟨rfl, rfl⟩ := Prod.mk.inj (Option.some.inj about)
    simp only [resolve, verb]
    refine (creature_gives _).bind fun k named => .after fun _ => ?_
    exact (gives_pure _).2 ⟨_, k, rfl, rfl, named⟩
  | setCreatureMaxLevel =>
    rw [verb] at about
    obtain ⟨rfl, rfl⟩ := Prod.mk.inj (Option.some.inj about)
    simp only [resolve, verb]
    refine .after fun players => (creature_gives _).bind fun k named => gives_remarkIf.2 ?_
    exact (gives_pure _).2 ⟨_, k, rfl, rfl, named⟩
  | _ =>
    rw [verb] at about
    cases about

/-- **Whose cells a line about an item changes.** Whenever its effect is carried out, the cells
    that change are among those in the tables and catalogues of the effect that the number of the
    item falls on. All of them are the item's own if and only if the number is that of a type, or
    what is written over the cells of others is what stood there before. -/
theorem own_cell_iff {w : World} {s : Script} {l : ScriptLine} {c : Command} {stock : Stock}
    {i : Nat} (about : l.verb.itemWord? = some (stock, i))
    (comes : (resolve w s l).outcome = .ok c) :
    ∃ e k, c = .effect e ∧ (w.names.ofStock stock).find? (l.word i) = some k ∧
      ∀ script w', let after := (e.apply script w').value
        (∀ x, after.cell x =
          if e.writes x && x.isOf k then e.entered (w'.cell x) x else w'.cell x) ∧
        ((∀ x, after.cell x ≠ w'.cell x → x.number = k) ↔
          k < stock.types ∨ ∀ x, e.writes x = true → x.isOf k = true →
            x.number = k ∨ e.entered (w'.cell x) x = w'.cell x) := by
  obtain ⟨e, k, rfl, item, named⟩ := resolve_about about c comes
  refine ⟨e, k, rfl, named, fun script w' => ?_⟩
  intro after
  have cells (x : Cell) := e.cell_apply item script w' x
  have reached {x : Cell} (written : e.writes x = true) (falls : x.isOf k = true) :
      after.cell x = e.entered (w'.cell x) x := by
    rw [cells, written, falls]
    rfl
  refine ⟨cells, fun own => .inr fun x written falls => ?_, fun bound x changed => ?_⟩
  · rw [← reached written falls]
    exact (Classical.em (after.cell x = w'.cell x)).symm.imp_left (own x)
  · obtain ⟨written, falls⟩ : e.writes x = true ∧ x.isOf k = true := by
      cases both : e.writes x && x.isOf k with
      | true => exact (Bool.and_eq_true _ _).mp both
      | false => exact absurd ((cells x).trans (if_neg (ne_true_of_eq_false both))) changed
    rcases bound with known | spared
    · exact e.number_of_isOf item known written falls
    · refine (spared x written falls).resolve_right fun same => ?_
      exact changed ((reached written falls).trans same)

/-- A newt under the number 33 shares its health with the wizards, who have the number 1. -/
theorem own_cell_iff_of_newt :
    let w : World := { World.fresh with
      names := { Names.stock with creatures := ⟨[("WIZARD", 1), ("NEWT", 33)]⟩ } }
    let l : ScriptLine := ⟨⟨"SET_CREATURE_HEALTH", [.word, .number], .setCreatureHealth⟩,
      ["NEWT", "700"], [0, 700]⟩
    let e : Effect := .setStat 33 .health 700
    (resolve w default l).outcome = .ok (.effect e) ∧
      w.names.creatures.find? "NEWT" = some 33 ∧
      w.cell (.statistic .health 1) = [0] ∧
      (e.apply default w).value.cell (.statistic .health 1) = [700] := by
  intro w l e
  have comes : (resolve w default l).outcome = .ok (.effect e) :=
    eq_ok_of_toOption (by decide +kernel)
  have about : l.verb.itemWord? = some (.creature, 0) := rfl
  obtain ⟨_, k, same, named, carried⟩ := own_cell_iff about comes
  obtain rfl := Command.effect.inj same
  have number : (w.names.ofStock .creature).find? (l.word 0) = some 33 := by decide +kernel
  obtain rfl : 33 = k := Option.some.inj (number.symm.trans named)
  refine ⟨comes, number, rfl, ?_⟩
  exact (carried default w).1 (.statistic .health 1)

end Command

end DungeonScript
