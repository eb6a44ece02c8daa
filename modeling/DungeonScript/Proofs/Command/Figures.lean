import DungeonScript.Proofs.Command
import DungeonScript.World.Changing

/-!
Numbers that a line sets and the fields that keep them. A line that sets a statistic of a
creature kind, or the speed at which creatures arrive, is checked when it is made sense of;
what it comes to is stored in a field that takes the nearest number it can hold. The range a
line may ask for (`Figure.Admits`) and the greatest number of the field (`Figure.greatest`) are
written down apart from each other.

For strength, armour and fear the two agree, and what is accepted is what is stored. A line may
ask for about twice the health that the field holds, and for any speed at all: beyond the field,
the greatest number it holds is stored, and nobody is told (`stored_exactly_iff`).
-/

namespace DungeonScript

theorem get_updateAt {α : Type} {n : Nat} (t : Vector α n) (i j : Fin n) (f : α → α) :
    (updateAt t i f).get j = if i == j then f (t.get j) else t.get j := by
  have changed := getElem_updateAt t i f j.val j.isLt
  simp only [beq_iff_eq, Fin.ext_iff]
  exact changed

/-! ## Statistics -/

namespace Stat

/-- The least number that the field of a statistic holds. -/
def least : Stat → Int
  | health => -32768
  | strength | armour | fear => 0

/-- The greatest number that the field of a statistic holds. -/
def greatest : Stat → Int
  | health => 32767
  | strength | armour | fear => 255

end Stat

def Stats.get (s : Stats) : Stat → Int
  | .health => s.health
  | .strength => s.strength
  | .armour => s.armour
  | .fear => s.fear

/-- Of all statistics of all kinds, one is set, to the nearest number that its field holds. -/
theorem World.get_setStat (w : World) (kind : Nat) (stat : Stat) (value : Int)
    (i : Fin creatureTypes) (other : Stat) :
    ((w.setStat kind stat value).stats.get i).get other =
      if slotOf creatureTypes_pos kind = i ∧ other = stat then clamp stat.least stat.greatest value
      else (w.stats.get i).get other := by
  simp only [setStat, get_updateAt, beq_iff_eq]
  by_cases here : slotOf creatureTypes_pos kind = i
  · rw [if_pos here]
    cases stat <;> cases other <;> simp [here, Stats.get, Stat.least, Stat.greatest]
  · rw [if_neg here, if_neg fun both => here both.1]

/-! ## Figures -/

/-- A number of the game that a line sets: a statistic of a creature kind, or the turns between
    the arrivals of creatures. -/
inductive Figure where
  | statistic (kind : Nat) (stat : Stat)
  | generateSpeed
  deriving DecidableEq

namespace Figure

def effect (value : Int) : Figure → Effect
  | statistic kind stat => .setStat kind stat value
  | generateSpeed => .setGenerateSpeed value

def Admits (value : Int) : Figure → Prop
  | statistic _ stat => 0 ≤ value ∧ value ≤ Command.statLimit stat
  | generateSpeed => 1 ≤ value

def greatest : Figure → Int
  | statistic _ stat => stat.greatest
  | generateSpeed => 65535

theorem Admits.nonneg {f : Figure} {value : Int} (admitted : f.Admits value) : 0 ≤ value := by
  cases f with
  | statistic kind stat => exact admitted.1
  | generateSpeed => exact Int.le_of_lt admitted

/-- What a line may ask for fits the field, unless it asks for health or for a speed. -/
theorem admits_le_greatest_iff (f : Figure) :
    (∀ value, f.Admits value → value ≤ f.greatest) ↔
      f ≠ generateSpeed ∧ ∀ kind, f ≠ statistic kind .health := by
  cases f with
  | generateSpeed =>
    refine ⟨fun fits => ?_, fun other => absurd rfl other.1⟩
    -- The least number that the field cannot hold is admitted.
    have beyond : (65536 : Int) ≤ 65535 := fits 65536 (show (1 : Int) ≤ 65536 by decide)
    omega
  | statistic kind which =>
    cases which with
    | health =>
      refine ⟨fun fits => ?_, fun other => absurd rfl (other.2 kind)⟩
      have beyond : (32768 : Int) ≤ 32767 := fits 32768 ⟨by decide, by decide⟩
      omega
    | strength | armour | fear => exact ⟨fun _ => ⟨nofun, nofun⟩, fun _ _ admitted => admitted.2⟩

end Figure

def World.figure (w : World) : Figure → Int
  | .statistic kind stat => (w.stats.get (slotOf creatureTypes_pos kind)).get stat
  | .generateSpeed => w.rules.generateSpeed

/-- What is stored is the number asked for, or the greatest there is room for. -/
theorem Figure.figure_apply {f : Figure} {value : Int} (admitted : f.Admits value)
    (script : Script) (w : World) :
    ((f.effect value).apply script w).value.figure f = min value f.greatest := by
  have nonneg := admitted.nonneg
  cases f with
  | statistic kind stat =>
    have set := w.get_setStat kind stat value (slotOf creatureTypes_pos kind) stat
    rw [if_pos ⟨rfl, rfl⟩] at set
    refine set.trans ?_
    have bottom : stat.least ≤ 0 := by cases stat <;> decide
    have top : 0 ≤ stat.greatest := by cases stat <;> decide
    show clamp stat.least stat.greatest value = min value stat.greatest
    unfold clamp
    omega
  | generateSpeed =>
    show ((clamp 0 65535 value).toNat : Int) = min value 65535
    unfold clamp
    omega

/-! ## Lines -/

def Verb.stat? : Verb → Option Stat
  | .setCreatureHealth => some .health
  | .setCreatureStrength => some .strength
  | .setCreatureArmour => some .armour
  | .setCreatureFear => some .fear
  | _ => none

def Verb.setsFigure (v : Verb) : Bool := v = .setGenerateSpeed || v.stat?.isSome

namespace ScriptLine

/-- The figure that a line sets, if the creature kind it is about is known. -/
def figure? (l : ScriptLine) (w : World) : Option Figure :=
  match l.verb.stat? with
  | some stat => (w.names.creatures.find? (l.word 0)).map (.statistic · stat)
  | none => if l.verb = .setGenerateSpeed then some .generateSpeed else none

/-- The number that a line sets its figure to. -/
def figureNumber (l : ScriptLine) : Int :=
  if l.verb = .setGenerateSpeed then l.number 0 else l.number 1

end ScriptLine

namespace Command

open Reading

variable {w : World} {s : Script} {l : ScriptLine}

theorem creatureStat_eq_ok {stat : Stat} {c : Command} :
    (creatureStat w l stat).outcome = .ok c ↔
      ∃ kind, w.names.creatures.find? (l.word 0) = some kind ∧
        (0 ≤ l.number 1 ∧ l.number 1 ≤ statLimit stat) ∧
          c = .effect (.setStat kind stat (l.number 1)) := by
  simp only [creatureStat, creature, item, within, outcome_bind_eq_ok, ofOption_eq_ok,
    require_eq_ok, Bool.and_eq_true, decide_eq_true_eq, exists_const, outcome_pure,
    Except.ok.injEq, eq_comm (b := c)]

/-- A line that sets a figure is accepted if the figure is known and may be asked to be this. -/
theorem resolve_figure (sets : l.verb.setsFigure = true) {c : Command} :
    (resolve w s l).outcome = .ok c ↔ ∃ f, l.figure? w = some f ∧ f.Admits l.figureNumber ∧
      c = .effect (f.effect l.figureNumber) := by
  have ofStat {stat : Stat} (verb : l.verb.stat? = some stat) :
      (creatureStat w l stat).outcome = .ok c ↔ ∃ f, l.figure? w = some f ∧
        f.Admits l.figureNumber ∧ c = .effect (f.effect l.figureNumber) := by
    have number : l.figureNumber = l.number 1 := by
      refine if_neg fun speed => ?_
      rw [speed] at verb
      cases verb
    rw [creatureStat_eq_ok, number]
    simp only [ScriptLine.figure?, verb, Option.map_eq_some_iff]
    constructor
    · rintro ⟨kind, known, admitted, rfl⟩
      exact ⟨.statistic kind stat, ⟨kind, known, rfl⟩, admitted, rfl⟩
    · rintro ⟨_, ⟨kind, known, rfl⟩, admitted, rfl⟩
      exact ⟨kind, known, admitted, rfl⟩
  cases verb : l.verb with
  | setCreatureHealth | setCreatureStrength | setCreatureArmour | setCreatureFear =>
    simp only [resolve, verb]
    exact ofStat (by rw [verb]; rfl)
  | setGenerateSpeed =>
    simp [resolve, verb, ScriptLine.figure?, ScriptLine.figureNumber, Verb.stat?, Figure.Admits,
      Figure.effect, atLeast, outcome_bind_eq_ok, require_eq_ok, eq_comm (b := c)]
  | _ =>
    rw [verb] at sets
    cases sets

/-- **What is accepted and what is stored.** A line that sets a figure is accepted if and only if
    the figure is known and admits its number. Whenever its effect is carried out, the figure
    becomes that number, cut to the greatest one its field holds, and so it is the number itself
    if and only if the field holds it. Every number that is admitted can be held for strength,
    armour and fear alone: a health above 32767 and a speed above 65535 are accepted, and others
    are stored. -/
theorem stored_exactly_iff (w : World) (s : Script) {l : ScriptLine}
    (sets : l.verb.setsFigure = true) :
    (∀ c, (resolve w s l).outcome = .ok c ↔ ∃ f, l.figure? w = some f ∧
      f.Admits l.figureNumber ∧ c = .effect (f.effect l.figureNumber)) ∧
    ∀ f, l.figure? w = some f →
      (∀ value, f.Admits value → ∀ script w',
        let stored := ((f.effect value).apply script w').value.figure f
        stored = min value f.greatest ∧ (stored = value ↔ value ≤ f.greatest)) ∧
      ((∀ value, f.Admits value → value ≤ f.greatest) ↔
        f ≠ .generateSpeed ∧ ∀ kind, f ≠ .statistic kind .health) := by
  refine ⟨fun c => resolve_figure sets, fun f _ => ⟨fun value admitted script w' => ?_,
    f.admits_le_greatest_iff⟩⟩
  have stored := Figure.figure_apply admitted script w'
  exact ⟨stored, by rw [stored]; omega⟩

/-- Wizards cannot be given a health of 40000, and no fault says so. -/
theorem stored_exactly_iff_of_health :
    let l : ScriptLine := ⟨⟨"SET_CREATURE_HEALTH", [.word, .number], .setCreatureHealth⟩,
      ["WIZARD", "40000"], [0, 40000]⟩
    let e : Effect := .setStat 1 .health 40000
    (resolve default default l).outcome = .ok (.effect e) ∧
      ∀ script w, (e.apply script w).value.figure (.statistic 1 .health) = 32767 := by
  intro l e
  have known : l.figure? default = some (.statistic 1 .health) := by decide +kernel
  have admitted : (Figure.statistic 1 .health).Admits 40000 := ⟨by decide, by decide⟩
  obtain ⟨accepted, stored⟩ := stored_exactly_iff default default (l := l) rfl
  refine ⟨(accepted _).2 ⟨_, known, admitted, rfl⟩, fun script w => ?_⟩
  exact ((stored _ known).1 40000 admitted script w).1

end Command

end DungeonScript
