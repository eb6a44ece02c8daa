import DungeonScript.Proofs.Command.Bounds
import DungeonScript.Proofs.Game.Announcing
import DungeonScript.Proofs.Game.Changes
import DungeonScript.Proofs.Game.WellFormed
import DungeonScript.Proofs.World.Points

/-!
What is stored. Every entry of a store that was loaded is a command that some line of the text
came to (`load_entries`), so it keeps to the bounds that were checked when the line was made
sense of, and to the numbers the line has. It is carried out much later, when nothing is checked
again. That does no harm to points and gates either: which of them there are never changes, not
by a level load, a turn of the world or a tick (`after_sites`).

`commands_in_bounds` puts the two together: whatever a line comes to, and whatever is found in a
store later on, is about players, slots, levels, points and gates that there are.
-/

namespace DungeonScript

namespace Command

theorem InBounds.of_sites {w w' : World} {c : Command} (inBounds : c.InBounds w)
    (same : w'.sites = w.sites) : c.InBounds w' := by
  have points : w'.hasPoint = w.hasPoint := congrArg Prod.fst same
  have place : ∀ p : Place, p.ExistsIn w → p.ExistsIn w' := by
    intro p exists_
    have gates : w'.hasGate = w.hasGate := congrArg Prod.snd same
    cases p with
    | actionPoint n => exact (congrFun points n).trans exists_
    | heroGate n => exact (congrFun gates n).trans exists_
    | _ => exact exists_
  cases c with
  | condition players test =>
    cases test with
    | measure => exact inBounds
    | entered n => exact ⟨inBounds.1, (congrFun points n).trans inBounds.2⟩
  | effect e =>
    cases e with
    | displayObjective | displayInformation | quickObjective | quickInformation | revealPlace =>
      exact ⟨inBounds.1, place _ inBounds.2⟩
    | resetActionPoint n => exact (congrFun points n).trans inBounds
    | _ => exact inBounds
  | spawn s => exact ⟨place _ inBounds.1, inBounds.2⟩
  | tunneller t => exact ⟨place _ inBounds.1, inBounds.2⟩
  | _ => exact inBounds

theorem OfLine.of_sites {w w' : World} {l : ScriptLine} {c : Command} (ofLine : c.OfLine w l)
    (same : w'.sites = w.sites) : c.OfLine w' l :=
  { ofLine with inBounds := ofLine.inBounds.of_sites same }

end Command

/-! ## Entries -/

/-- The action point of the command is the one whose number the first word reads as. -/
def Command.PointAsRead (l : ScriptLine) (c : Command) : Prop :=
  ∀ number : Nat, c.point? = some number → (number : Int) = (Numeral.read (l.word 0)).value

theorem Command.OfLine.pointAsRead {w : World} {l : ScriptLine} {c : Command}
    (ofLine : c.OfLine w l) {levelVersion : Int} {pass : Pass} {text : List Char} {dice : Dice}
    (read : (ScriptLine.read levelVersion pass text dice).outcome = .ok (some l)) :
    c.PointAsRead l := by
  intro number about
  obtain ⟨verb, same⟩ := ofLine.point number about
  have known := ScriptLine.mem_grammar_of_leading? (ScriptLine.leading?_of_read read).1
  rw [same, ScriptLine.number_of_read read (Command.arguments_of_namesPoint _ _ known verb)]

/-- Every entry of the store, taken as the command it was stored for, has the property. -/
structure Script.Entries (P : Command → Prop) (s : Script) : Prop where
  conditions : ∀ c ∈ s.conditions, P (.condition c.players c.test)
  spawns : ∀ e ∈ s.spawns, P (.spawn e.item)
  tunnellers : ∀ e ∈ s.tunnellers, P (.tunneller e.item)
  effects : ∀ e ∈ s.effects, P (.effect e.item)
  members : ∀ p ∈ s.parties, ∀ m ∈ p.members, ∃ name, P (.addToParty name m)

theorem Gated.forall_afterTurn {α : Type} {R : α → Prop} {es : List (Gated α)}
    (conditions : List Condition) (all : ∀ e ∈ es, R e.item) :
    ∀ e ∈ es.map (·.afterTurn conditions), R e.item := by
  intro e here
  obtain ⟨old, there, rfl⟩ := List.mem_map.1 here
  rw [Gated.afterTurn_item]
  exact all old there

namespace Script.Entries

variable {P : Command → Prop} {s : Script}

theorem of_empty (texts : Vector String quickTextCount) :
    ({ Script.empty with quickTexts := texts } : Script).Entries P := by
  constructor <;> exact fun _ h => absurd h List.not_mem_nil

theorem mono {Q : Command → Prop} (h : s.Entries P) (imp : ∀ c, P c → Q c) : s.Entries Q where
  conditions c here := imp _ (h.conditions c here)
  spawns e here := imp _ (h.spawns e here)
  tunnellers e here := imp _ (h.tunnellers e here)
  effects e here := imp _ (h.effects e here)
  members p here m inside := (h.members p here m inside).imp fun _ => imp _

/-- A turn of the script changes nothing that is stored but whether it has happened. -/
theorem afterSweep (h : s.Entries P) (w : World) :
    (s.afterSweep (swept w s.conditions)).Entries P where
  conditions c here := by
    have asked : c.question ∈ s.conditions.map (·.question) := by
      rw [← swept_question s.conditions w]
      exact List.mem_map_of_mem here
    obtain ⟨old, there, same⟩ := List.mem_map.1 asked
    have players : old.players = c.players := congrArg (·.2.1) same
    have test : old.test = c.test := congrArg (·.2.2) same
    rw [← players, ← test]
    exact h.conditions old there
  spawns := Gated.forall_afterTurn (R := fun s => P (.spawn s)) _ h.spawns
  tunnellers := Gated.forall_afterTurn (R := fun t => P (.tunneller t)) _ h.tunnellers
  effects := Gated.forall_afterTurn (R := fun e => P (.effect e)) _ h.effects
  members := h.members

end Script.Entries

namespace Game

variable {P : Command → Prop}

theorem Registered.entries {c : Command} {g g' : Game} (done : Registered g c g')
    (old : g.script.Entries P) (new : P c) : g'.script.Entries P := by
  cases done with
  | conditionOpened _ => exact { old with conditions := forall_mem_concat old.conditions new }
  | effectStored _ _ => exact { old with effects := forall_mem_concat old.effects new }
  | spawnStored _ _ => exact { old with spawns := forall_mem_concat old.spawns new }
  | tunnellerStored _ _ => exact { old with tunnellers := forall_mem_concat old.tunnellers new }
  | partyCreated _ _ =>
    exact { old with members := forall_mem_concat old.members fun _ none => nomatch none }
  | @memberAdded name m id p _ party _ =>
    refine { old with members := fun q here => ?_ }
    rcases List.mem_or_eq_of_mem_set here with there | rfl
    · exact old.members q there
    · exact forall_mem_concat (old.members p (List.mem_of_getElem? party)) ⟨name, new⟩
  | winAdded _ _ => exact { old with }
  | lossAdded _ _ => exact { old with }
  | _ => exact old

theorem Heard.entries {g h : Game} (heard : Heard g h) (old : g.script.Entries P) :
    h.script.Entries P := by
  obtain ⟨_, _, _, rfl⟩ := heard
  exact { old with }

theorem Idle.entries {g g' : Game} (idle : Idle g g') (old : g.script.Entries P) :
    g'.script.Entries P := by
  obtain ⟨_, same⟩ := idle.script
  rw [same]
  exact { old with }

/-- The line reads as `l` in this game and comes to the command `c`. -/
def ComesTo (text : List Char) (g : Game) (l : ScriptLine) (c : Command) : Prop :=
  g.lineRead .full text = .ok (some l) ∧ (g.lineMeaning l).outcome = .ok c

/-- A line stores the command it comes to, if it stores anything. -/
theorem LineEnd.entries {text : List Char} {g g' : Game} {f : Option Fault}
    (h : LineEnd .full text g g' f) (old : g.script.Entries P)
    (new : ∀ l c, g.ComesTo text l c → P c) : g'.script.Entries P := by
  rcases h.idle_or_registered with idle | ⟨l, c, k, read, _, meaning, heard, registered⟩
  · exact idle.entries old
  · exact (register_registered registered).entries (heard.entries old) (new l c ⟨read, meaning⟩)

/-- Some line of the text comes to the command in the full pass. -/
def AskedFor (text : String) (g : Game) (l : ScriptLine) (c : Command) : Prop :=
  ∃ n line, (scriptLines text)[n]? = some line ∧ (g.onLine text n line).ComesTo line.2 l c

theorem atPoint_entries (text : String) (g : Game) (n : Nat) :
    (g.atPoint text n).script.Entries fun c => ∃ l, g.AskedFor text l c := by
  induction n with
  | zero => exact Script.Entries.of_empty _
  | succ n ih =>
    rcases atPoint_succ text n g with ⟨line, here, next⟩ | ⟨_, next⟩
    · rw [next, loadLine_script]
      have ends := scanLine_ends .full line.2 (g.onLine text n line)
      exact ends.entries ih fun l c comes => ⟨l, n, line, here, comes⟩
    · rw [next]
      exact ih

/-- Every entry that a load stores is a command that a line of the text comes to. -/
theorem load_entries (text : String) (g : Game) :
    (g.load text).value.script.Entries fun c => ∃ l, g.AskedFor text l c := by
  rw [load_script_atPoint]
  exact atPoint_entries text g _

/-! ## Lines of a text -/

theorem atPoint_sites (text : String) (g : Game) (n : Nat) :
    (g.load text).value.world.sites = (g.atPoint text n).world.sites := by
  have start : g.cleared.world.sites = g.world.sites := g.world.forNewLevel_changes.sites
  exact (changes_keep.load World.forNewLevel_changes text g).sites.trans
    (start.symm.trans (changes_keep.loadLines .full _ g.cleared).sites.symm)

/-- A command that a line asks for is in bounds when the text has been loaded, too. -/
theorem AskedFor.ofLine {text : String} {g : Game} {l : ScriptLine} {c : Command}
    (asked : g.AskedFor text l c) :
    c.OfLine (g.load text).value.world l ∧ c.PointAsRead l := by
  obtain ⟨n, line, _, read, meaning⟩ := asked
  have ofLine := Command.resolve_ofLine _ _ l c meaning
  exact ⟨ofLine.of_sites (atPoint_sites text g n), ofLine.pointAsRead read⟩

/-! ## Runs -/

theorem play_sites (o : Options) (g : Game) (m : Move) : (g.play o m).world.sites = g.world.sites := by
  cases m with
  | loadLevel text => exact (loadLevel_changes text g).sites
  | advance => exact g.world.advance_sites
  | tick => exact (tick_changes o g).sites

theorem after_sites (o : Options) (moves : List Move) (g : Game) :
    (g.after o moves).world.sites = g.world.sites := by
  induction moves generalizing g with
  | nil => rfl
  | cons m rest ih => exact (ih (g.play o m)).trans (play_sites o g m)

/-- A store whose entries are in bounds is one after every step. -/
theorem play_inBounds (o : Options) {g : Game} (m : Move)
    (inBounds : g.script.Entries (·.InBounds g.world)) :
    (g.play o m).script.Entries (·.InBounds (g.play o m).world) := by
  cases m with
  | loadLevel text =>
    refine (load_entries text (g.preload text).value).mono fun c asked => ?_
    obtain ⟨l, asked⟩ := asked
    exact asked.ofLine.1.inBounds
  | advance => exact inBounds.mono fun c old => old.of_sites (play_sites o g .advance)
  | tick =>
    have kept : (g.tick o).value.script.Entries (·.InBounds g.world) := by
      rw [tick_script]
      split
      · exact inBounds
      · exact inBounds.afterSweep g.world
    exact kept.mono fun c old => old.of_sites (play_sites o g .tick)

theorem after_inBounds (o : Options) (moves : List Move) {g : Game}
    (inBounds : g.script.Entries (·.InBounds g.world)) :
    (g.after o moves).script.Entries (·.InBounds (g.after o moves).world) := by
  induction moves generalizing g with
  | nil => exact inBounds
  | cons m rest ih => exact ih (play_inBounds o m inBounds)

/-- **What a line comes to is in bounds, and stays so.** Whatever line is made sense of, in
    whatever world and with whatever store, the command it comes to is about players, slots,
    levels, messages, points and gates that there are, in amounts that were checked. A point or
    gate it is to happen at is the one that the word for the place numbers, and a point it asks
    about or resets is the one of the number read from its first word. So is every entry that a
    load stores, in the world as the load leaves it. No run of level loads, turns of the world and
    ticks adds or removes a point or a gate, so that whatever is in store at any time of a run is
    in bounds then. -/
theorem commands_in_bounds (o : Options) :
    (∀ w s l c, (Command.resolve w s l).outcome = .ok c → c.OfLine w l ∧
      ∀ levelVersion pass text dice,
        (ScriptLine.read levelVersion pass text dice).outcome = .ok (some l) → c.PointAsRead l) ∧
    (∀ text (g : Game), (g.load text).value.script.Entries fun c => ∃ l, g.AskedFor text l c ∧
      c.OfLine (g.load text).value.world l ∧ c.PointAsRead l) ∧
    (∀ moves (g : Game), (g.after o moves).world.sites = g.world.sites) ∧
    ∀ text moves (g : Game), ((g.load text).value.after o moves).script.Entries
      (·.InBounds ((g.load text).value.after o moves).world) := by
  refine ⟨fun w s l c meaning => ?_, fun text g => ?_, fun moves g => after_sites o moves g,
    fun text moves g => after_inBounds o moves ?_⟩
  · have ofLine := Command.resolve_ofLine w s l c meaning
    exact ⟨ofLine, fun _ _ _ _ read => ofLine.pointAsRead read⟩
  · exact (load_entries text g).mono fun c stored => stored.imp fun l asked => ⟨asked, asked.ofLine⟩
  · exact (load_entries text g).mono fun c stored =>
      stored.elim fun l asked => asked.ofLine.1.inBounds

/-- A spawn that is in store after a tick is to appear at the gate its line names. -/
theorem commands_in_bounds_of_stored_spawn :
    let text := "IF(PLAYER0,MONEY>1)\nADD_CREATURE_TO_LEVEL(PLAYER0,IMP,-2,1,1,0)\nENDIF\n"
    let later := ((fresh .usual (World.fresh.addGate 2 (5, 5))).load text).value.after .usual [.tick]
    later.script.spawns.map (·.item.place) = [.heroGate 2] ∧ later.world.hasGate 2 = true := by
  intro text later
  have spawns : later.script.spawns.map (·.item.place) = [.heroGate 2] := by decide +kernel
  have inBounds : later.script.Entries (·.InBounds later.world) :=
    (commands_in_bounds .usual).2.2.2 text [.tick] _
  refine ⟨spawns, ?_⟩
  have named : Place.heroGate 2 ∈ later.script.spawns.map (·.item.place) := by
    rw [spawns]
    exact List.mem_singleton_self _
  obtain ⟨e, here, place⟩ := List.mem_map.1 named
  have exists_ : e.item.place.ExistsIn later.world := (inBounds.spawns e here).1
  rw [place] at exists_
  exact exists_

end Game

end DungeonScript
