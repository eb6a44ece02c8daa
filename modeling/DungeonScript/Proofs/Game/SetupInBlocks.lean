import DungeonScript.Proofs.Game.Preload
import DungeonScript.Proofs.Game.Version
import DungeonScript.Proofs.LineNumbers

/-!
Setup commands inside blocks. What such a command comes to is a matter of its line, the world and
the store (`ScriptLine.prepare`): open blocks and announcements have no part in it, and nothing is
stored for later (`loadLine_of_setup`). That it stands inside a block is remarked on, by the pass
that carries it out and by the blocks that are open in that pass (`misplaced?`).

No block is ever open in the preload pass. So the commands of the full pass are remarked on
wherever they stand inside a block, and `SWAP_CREATURE` is carried out as they are, and never
remarked on (`setup_inside_blocks`).
-/

namespace DungeonScript

/-! ## What a setup line comes to -/

/-- World and store as a setup line leaves them, and what has been remarked on by then. -/
structure Preparation where
  world : World
  script : Script
  remarks : List Remark

namespace Command

def isSetup : Command → Bool
  | setup _ | createParty _ | addToParty _ _ => true
  | _ => false

/-- What a setup command does to world and store. Other commands prepare nothing. -/
def prepare (w : World) (s : Script) : Command → Attempt Preparation
  | setup order => (order.apply w).value.map (⟨·, s, []⟩)
  | createParty name =>
    match s.findParty? name with
    | some _ => .done ⟨w, s, [.partyAgain name]⟩
    | none => (s.createParty name).map fun made => ⟨w, made.2, []⟩
  | addToParty party m =>
    match s.findParty? party with
    | some id => (s.addMember id m).map (⟨w, ·, []⟩)
    | none => .failed (.undefinedParty party) ⟨w, s, []⟩
  | _ => .done ⟨w, s, []⟩

theorem resolve_isSetup (w : World) (s : Script) {l : ScriptLine}
    (setup : l.verb.isSetupOnly = true) (other : l.verb ≠ .levelVersion) :
    (resolve w s l).Gives fun c => c.isSetup = true := by
  cases verb : l.verb with
  | levelVersion => exact absurd verb other
  | createParty | addToParty | startMoney | computerPlayer | setMusic | setComputerGlobals
  | setComputerChecks | setComputerEvent | setComputerProcess | swapCreature =>
    simp [resolve, verb, isSetup, computerPlan]
  | _ =>
    rw [verb] at setup
    cases setup

end Command

/-- What a setup line does to world and store, and what is said of it once it has been read. -/
def ScriptLine.prepare (l : ScriptLine) (w : World) (s : Script) : Preparation :=
  let r := Command.resolve w s l
  let said := r.asides.filterMap Aside.remark?
  match r.outcome with
  | .error f => ⟨w, s, said ++ [.fault f]⟩
  | .ok c =>
    let tried := c.prepare w s
    { tried.left with remarks :=
        said ++ (tried.left.remarks ++ (tried.fault.map Remark.fault).toList) }

namespace Game

@[simp] theorem noted_nil (g : Game) : g.noted [] = g := by
  simp [noted]

def prepared (did : Preparation) (g : Game) : Game :=
  noted did.remarks { g with world := did.world, script := did.script }

/-- Registering a setup command comes to the same whatever the game has read so far. -/
theorem register_of_isSetup {c : Command} (setup : c.isSetup = true) (g : Game) :
    (g.register c).value = (c.prepare g.world g.script).map g.prepared := by
  have bare {α : Type} (x : Attempt α) (f : α → Game) :
      x.map f = x.map fun a => (f a).noted [] := by
    simp only [noted_nil]
  cases c with
  | setup order => exact bare (order.apply g.world).value fun world => { g with world }
  | createParty name =>
    simp only [register, Game.createParty, Command.prepare]
    cases g.script.findParty? name with
    | some id => rfl
    | none => exact bare (g.script.createParty name) fun made => { g with script := made.2 }
  | addToParty party m =>
    simp only [register, Game.addToParty, Command.prepare, Logged.value_pure]
    cases g.script.findParty? party with
    | none => exact congrArg (Attempt.failed _) (noted_nil g).symm
    | some id => exact bare (g.script.addMember id m) fun script => { g with script }
  | _ => cases setup

theorem Registered.script_of_isSetup {c : Command} {g g' : Game} (done : Registered g c g')
    (setup : c.isSetup = true) : ∃ parties, g'.script = { g.script with parties } := by
  cases done with
  | partyKnown | partyCreated | memberAdded | setUp => exact ⟨_, rfl⟩
  | _ => cases setup

/-- Of the store, a setup line touches the parties alone: nothing is put off. -/
theorem prepare_script {l : ScriptLine} (setup : l.verb.isSetupOnly = true)
    (other : l.verb ≠ .levelVersion) (g : Game) :
    ∃ parties, (l.prepare g.world g.script).script = { g.script with parties } := by
  unfold ScriptLine.prepare
  dsimp only
  cases meaning : (Command.resolve g.world g.script l).outcome with
  | error f => exact ⟨g.script.parties, rfl⟩
  | ok c =>
    have isSetup := Command.resolve_isSetup g.world g.script setup other c meaning
    have left : (c.prepare g.world g.script).left.script = (g.register c).value.left.script := by
      rw [register_of_isSetup isSetup]
      rfl
    show ∃ parties, (c.prepare g.world g.script).left.script = _
    rw [left]
    cases fault : (g.register c).value.fault with
    | some f => exact ⟨g.script.parties, by rw [register_left fault]⟩
    | none => exact (register_registered (Attempt.eq_done fault)).script_of_isSetup isSetup

/-- The game a line leaves, with its fault on record. -/
def settled (end_ : Attempt Game) : Game :=
  match end_.fault with
  | some f => (end_.left.report (.fault f)).value
  | none => end_.left

theorem carryOut_of_setup {l : ScriptLine} (setup : l.verb.isSetupOnly = true)
    (other : l.verb ≠ .levelVersion) (g : Game) :
    settled (g.carryOut l).value = g.prepared (l.prepare g.world g.script) := by
  have silent : l.verb.setsText = false ∧ l.verb.opensCondition = false := by
    revert setup
    cases l.verb <;> simp [Verb.isSetupOnly, Verb.setsText, Verb.opensCondition]
  have heard := hear_of_plain _ g (Command.resolve_plain g.world g.script l silent.1).2
  have command := Command.resolve_isSetup g.world g.script setup other
  have stays (h : Game) : h.passOver l.verb = h := by
    simp [passOver, silent.2]
  unfold carryOut ScriptLine.prepare
  simp only [Logged.value_bind, heard]
  generalize (Command.resolve g.world g.script l).asides.filterMap Aside.remark? = said
  cases meaning : (Command.resolve g.world g.script l).outcome with
  | error f =>
    simp only [Logged.value_pure, stays]
    exact noted_noted said [.fault f] g
  | ok c =>
    -- what has been said so far is not in world and store
    have registers : ((g.noted said).register c).value =
        (c.prepare g.world g.script).map (g.noted said).prepared :=
      register_of_isSetup (command c meaning) (g.noted said)
    simp only [Logged.value_bind, registers, Attempt.fault_map, Attempt.left_map]
    generalize c.prepare g.world g.script = tried
    obtain ⟨did, fault⟩ := tried
    cases fault with
    | none =>
      simp only [Option.map_none, Option.toList_none, List.append_nil]
      exact noted_noted said did.remarks { g with world := did.world, script := did.script }
    | some f =>
      simp only [Logged.value_pure, stays]
      refine (noted_noted did.remarks [.fault f]
        (noted said { g with world := did.world, script := did.script })).trans ?_
      exact noted_noted said (did.remarks ++ [.fault f])
        { g with world := did.world, script := did.script }

/-- The game after a setup line, when that line is looked at: its words have been read, it is
    remarked on if it stands inside a block, and what it comes to has been done. -/
def afterSetup (pass : Pass) (text : List Char) (l : ScriptLine) (g : Game) : Game :=
  let r := ScriptLine.read g.progress.levelVersion pass text g.dice
  prepared (l.prepare g.world g.script) <|
    noted (r.asides.filterMap Aside.remark? ++
      if g.progress.inBlock then [.insideBlock l.usage.keyword] else []) { g with dice := r.dice }

theorem remarkedOn_of_setup {l : ScriptLine} (setup : l.verb.isSetupOnly = true) (g : Game) :
    g.remarkedOn l =
      g.noted (if g.progress.inBlock then [.insideBlock l.usage.keyword] else []) := by
  unfold remarkedOn
  rw [setup, Bool.true_and]
  split
  · rfl
  · exact (noted_nil g).symm

/-- **A setup line acts at once.** Unless the block around it is dropped, it does the same to world
    and store whatever blocks are open and whatever is announced. -/
theorem loadLine_of_setup {pass : Pass} {line : Nat × List Char} {g : Game} {l : ScriptLine}
    (setup : l.verb.isSetupOnly = true) (other : l.verb ≠ .levelVersion) :
    let here := { g with progress := g.progress.atLine line.1 }
    here.progress.drops = false → here.lineRead pass line.2 = .ok (some l) →
      (loadLine pass line g).value = here.afterSetup pass line.2 l := by
  intro here taken read
  let r := ScriptLine.read here.progress.levelVersion pass line.2 here.dice
  let h := noted (r.asides.filterMap Aside.remark?) { here with dice := r.dice }
  have scanned : (scanLine pass line.2 here).value = (h.takeLine l).value := by
    rw [scanLine_value]
    show afterReading h (here.lineRead pass line.2) = _
    rw [read]
    rfl
  have took : (h.takeLine l).value = ((h.remarkedOn l).carryOut l).value := by
    have goesOn : (h.remarkedOn l).progress.drops = false := by
      rw [remarkedOn_of_setup setup]
      exact taken
    rw [takeLine_value, goesOn]
    rfl
  calc (loadLine pass line g).value
    _ = settled (scanLine pass line.2 here).value := loadLine_value pass line g
    _ = settled ((h.remarkedOn l).carryOut l).value := by rw [scanned, took]
    _ = (h.remarkedOn l).prepared (l.prepare (h.remarkedOn l).world (h.remarkedOn l).script) :=
      carryOut_of_setup setup other _
    _ = here.afterSetup pass line.2 l := by
      rw [remarkedOn_of_setup setup, noted_noted]
      rfl

/-! ## What is remarked on -/

end Game

/-- A remark that a command stands inside a block. -/
def Remark.onPlace : Remark → Bool
  | .insideBlock _ => true
  | _ => false

theorem Remark.aloof_onPlace : Remark.Aloof Remark.onPlace where
  meaning {m} meant := by
    cases m with
    | insideBlock => cases meant
    | _ => rfl
  partyAgain _ := rfl
  withoutEffect _ := rfl

theorem Remark.onPlace_of_ofReading {m : Remark} (h : m.ofReading = true) : m.onPlace = false := by
  cases m with
  | insideBlock => cases h
  | _ => rfl

namespace Game

/-- The remark that the line being read earns by standing inside a block. -/
def misplaced? (pass : Pass) (text : List Char) (g : Game) : Option Remark :=
  match g.lineRead pass text with
  | .ok (some l) =>
    if l.verb.isSetupOnly && g.progress.inBlock then some (.insideBlock l.usage.keyword) else none
  | _ => none

theorem misplaced?_eq_some {pass : Pass} {text : List Char} {g : Game} {m : Remark} :
    g.misplaced? pass text = some m ↔ g.progress.inBlock = true ∧
      ∃ l, g.lineRead pass text = .ok (some l) ∧ l.verb.isSetupOnly = true ∧
        m = .insideBlock l.usage.keyword := by
  unfold misplaced?
  split
  · rename_i l read
    rw [read]
    constructor
    · intro earned
      split at earned
      · rename_i inside
        obtain ⟨setup, inside⟩ := Bool.and_eq_true_iff.1 inside
        exact ⟨inside, l, rfl, setup, (Option.some.inj earned).symm⟩
      · cases earned
    · rintro ⟨inside, l', same, setup, rfl⟩
      obtain rfl := Option.some.inj (Except.ok.inj same)
      rw [setup, inside]
      rfl
  · rename_i unread
    constructor
    · intro earned
      cases earned
    · rintro ⟨_, l, read, _⟩
      exact absurd read (unread l)

theorem settled_said (end_ : Attempt Game) :
    (settled end_).said Remark.onPlace = end_.left.said Remark.onPlace := by
  unfold settled
  split
  · exact said_report_of_not rfl _
  · rfl

theorem remarkedOn_said (l : ScriptLine) (g : Game) : (g.remarkedOn l).said Remark.onPlace =
    g.said Remark.onPlace ++ if l.verb.isSetupOnly && g.progress.inBlock then
      [⟨g.progress.line, .insideBlock l.usage.keyword⟩] else [] := by
  unfold remarkedOn
  split
  · exact said_report Remark.onPlace (.insideBlock l.usage.keyword) g
  · exact (List.append_nil _).symm

theorem takeLine_said (l : ScriptLine) (g : Game) : (g.takeLine l).value.left.said Remark.onPlace =
    (g.remarkedOn l).said Remark.onPlace := by
  rw [takeLine_value]
  split
  · exact (said_report_of_not rfl _).trans (passOver_said _ _ _)
  · exact (carryOut_said Remark.aloof_onPlace l _).1

/-- A line adds to such remarks the one it earns, and no other. -/
theorem loadLine_said (pass : Pass) (line : Nat × List Char) (g : Game) :
    (loadLine pass line g).value.said Remark.onPlace = g.said Remark.onPlace ++
      ((misplaced? pass line.2 { g with progress := g.progress.atLine line.1 }).map
        (⟨line.1, ·⟩ : Remark → Diagnostic)).toList := by
  let here := { g with progress := g.progress.atLine line.1 }
  let r := ScriptLine.read here.progress.levelVersion pass line.2 here.dice
  let h := noted (r.asides.filterMap Aside.remark?) { here with dice := r.dice }
  have words : h.said Remark.onPlace = g.said Remark.onPlace := by
    have none : (r.asides.filterMap Aside.remark?).filter Remark.onPlace = [] := by
      refine List.filter_eq_nil_iff.2 fun m said => ?_
      rw [Remark.onPlace_of_ofReading (ScriptLine.ofReading_filterMap
        (ScriptLine.ofReading_read _ _ _ _) m said)]
      exact Bool.false_ne_true
    rw [said_noted, none]
    exact List.append_nil _
  have scanned : (scanLine pass line.2 here).value = afterReading h (here.lineRead pass line.2) :=
    scanLine_value pass line.2 here
  have left : (loadLine pass line g).value.said Remark.onPlace =
      (afterReading h (here.lineRead pass line.2)).left.said Remark.onPlace := by
    rw [← scanned]
    exact (congrArg (said Remark.onPlace) (loadLine_value pass line g)).trans (settled_said _)
  rw [left]
  unfold misplaced?
  cases here.lineRead pass line.2 with
  | error f => exact words.trans (List.append_nil _).symm
  | ok o =>
    cases o with
    | none => exact words.trans (List.append_nil _).symm
    | some l =>
      show (h.takeLine l).value.left.said Remark.onPlace = _
      have earned (b : Bool) (m : Remark) : (if b = true then [(⟨line.1, m⟩ : Diagnostic)] else []) =
          ((if b = true then some m else none).map (⟨line.1, ·⟩)).toList := by
        cases b <;> rfl
      rw [takeLine_said, remarkedOn_said, words]
      exact congrArg (g.said Remark.onPlace ++ ·) (earned _ _)

/-! ## A whole text -/

/-- What line `n` of the full pass earns by standing inside a block. -/
def misplacedAt? (text : String) (g : Game) (n : Nat) : Option Diagnostic :=
  (scriptLines text)[n]?.bind fun line =>
    ((g.onLine text n line).misplaced? .full line.2).map (⟨line.1, ·⟩)

theorem misplacedAt?_eq {text : String} (g : Game) {n : Nat} {line : Nat × List Char}
    (here : (scriptLines text)[n]? = some line) : g.misplacedAt? text n =
      ((g.onLine text n line).misplaced? .full line.2).map (⟨line.1, ·⟩) := by
  rw [misplacedAt?, here]
  rfl

theorem atPoint_said (text : String) (g : Game) (n : Nat) :
    (g.atPoint text n).said Remark.onPlace =
      g.said Remark.onPlace ++ (List.range n).filterMap (g.misplacedAt? text) := by
  induction n with
  | zero => exact (List.append_nil _).symm
  | succ n ih =>
    have added : (List.range (n + 1)).filterMap (g.misplacedAt? text) =
        (List.range n).filterMap (g.misplacedAt? text) ++ (g.misplacedAt? text n).toList := by
      rw [List.range_succ, List.filterMap_append, List.filterMap_eq_flatMap_toList _ [n],
        List.flatMap_singleton]
    rw [added, ← List.append_assoc, ← ih]
    rcases atPoint_succ text n g with ⟨line, here, next⟩ | ⟨ended, next⟩
    · rw [next, loadLine_said, misplacedAt?_eq g here]
      rfl
    · rw [next, misplacedAt?, List.getElem?_eq_none ended]
      exact (List.append_nil _).symm

theorem inPreload_said (text : String) (g : Game) (n : Nat) :
    (g.inPreload text n).said Remark.onPlace = [] := by
  induction n with
  | zero => rfl
  | succ n ih =>
    rcases inPreload_succ text n g with ⟨line, _, next⟩ | ⟨_, next⟩
    · have outside : (g.onPreloadLine text n line).progress.inBlock = false := by
        rw [Progress.inBlock, show (g.onPreloadLine text n line).progress.blocks = [] from
          g.inPreload_outside text n]
        rfl
      have none : (g.onPreloadLine text n line).misplaced? .preload line.2 = none := by
        refine Option.eq_none_iff_forall_not_mem.2 fun m earned => ?_
        rw [(misplaced?_eq_some.1 earned).1] at outside
        cases outside
      rw [next, loadLine_said, ih]
      show ((misplaced? .preload line.2 (g.onPreloadLine text n line)).map _).toList = []
      rw [none]
      rfl
    · rw [next, ih]

theorem sumUp_said (g : Game) : g.sumUp.value.said Remark.onPlace = g.said Remark.onPlace := by
  have reportIf (c : Bool) (r : Remark) (g : Game) (other : r.onPlace = false) :
      (g.reportIf c r).value.said Remark.onPlace = g.said Remark.onPlace := by
    cases c with
    | true => exact said_report_of_not other g
    | false => rfl
  exact (said_report_of_not rfl _).trans ((reportIf _ _ _ rfl).trans (reportIf _ _ _ rfl))

/-- What a level load says of commands inside blocks is what the lines of the full pass earn, in
    order. -/
theorem loadLevel_said (text : String) (g : Game) :
    (g.loadLevel text).value.said Remark.onPlace =
      (List.range (scriptLines text).length).filterMap
        ((g.preload text).value.misplacedAt? text) := by
  let p := (g.preload text).value
  have preloaded : p.said Remark.onPlace = [] := by
    have whole := inPreload_said text g (scriptLines text).length
    rw [inPreload, List.take_length] at whole
    exact whole
  have read := atPoint_said text p (scriptLines text).length
  rw [atPoint, List.take_length, preloaded] at read
  exact (sumUp_said _).trans read

theorem index_unique {text : String} {i j : Nat} {a b : Nat × List Char}
    (here : (scriptLines text)[i]? = some a) (there : (scriptLines text)[j]? = some b)
    (same : a.1 = b.1) : i = j := by
  have numbers : ((scriptLines text).map (·.1)).Nodup :=
    (Lines.numbered_numberedFrom 1 (.inl rfl)).increasing.imp Nat.ne_of_lt
  have inside : i < ((scriptLines text).map (·.1)).length := by
    rw [List.length_map]
    exact (List.getElem?_eq_some_iff.1 here).1
  refine (List.getElem?_inj inside numbers).1 ?_
  rw [List.getElem?_map, List.getElem?_map, here, there]
  exact congrArg some same

/-- A line of the full pass is said to stand inside a block exactly if it earns that. -/
theorem mem_diagnostics_iff {text : String} (g : Game) {n : Nat} {line : Nat × List Char}
    (here : (scriptLines text)[n]? = some line) {m : Remark} (place : m.onPlace = true) :
    ⟨line.1, m⟩ ∈ (g.loadLevel text).value.progress.diagnostics ↔
      ((g.preload text).value.onLine text n line).misplaced? .full line.2 = some m := by
  let p := (g.preload text).value
  have asked : ⟨line.1, m⟩ ∈ (g.loadLevel text).value.progress.diagnostics ↔
      ⟨line.1, m⟩ ∈ (g.loadLevel text).value.said Remark.onPlace := by
    rw [said, List.mem_filter]
    exact (and_iff_left place).symm
  rw [asked, loadLevel_said, List.mem_filterMap]
  constructor
  · rintro ⟨j, inside, earned⟩
    obtain ⟨line', there, remarked⟩ := Option.bind_eq_some_iff.1 earned
    obtain ⟨m', own, same⟩ := Option.map_eq_some_iff.1 remarked
    obtain ⟨number, rfl⟩ := Diagnostic.mk.inj same
    obtain rfl := index_unique here there number.symm
    obtain rfl := Option.some.inj (here.symm.trans there)
    exact own
  · intro earned
    refine ⟨n, List.mem_range.2 (List.getElem?_eq_some_iff.1 here).1, ?_⟩
    rw [misplacedAt?_eq _ here, earned]
    rfl

/-- A setup line of the full pass acts at once, unless it stands in a dropped block. -/
theorem atPoint_of_setup {text : String} {p : Game} {n : Nat} {line : Nat × List Char}
    (here : (scriptLines text)[n]? = some line) {l : ScriptLine}
    (read : (p.onLine text n line).lineRead .full line.2 = .ok (some l))
    (setup : l.verb.isSetupOnly = true) (taken : (p.onLine text n line).progress.drops = false) :
    p.atPoint text (n + 1) = (p.onLine text n line).afterSetup .full line.2 l ∧
      ∃ parties, (p.atPoint text (n + 1)).script = { (p.onLine text n line).script with parties } := by
  have full : Pass.full.takes l.verb = true := (ScriptLine.leading?_of_read read).2.2
  have other : l.verb ≠ .levelVersion := fun same => by
    rw [same] at full
    cases full
  have next : p.atPoint text (n + 1) = (p.onLine text n line).afterSetup .full line.2 l := by
    rcases atPoint_succ text n p with ⟨line', there, next⟩ | ⟨ended, _⟩
    · obtain rfl := Option.some.inj (here.symm.trans there)
      exact next.trans (loadLine_of_setup setup other taken read)
    · rw [List.getElem?_eq_none ended] at here
      cases here
  refine ⟨next, ?_⟩
  rw [next]
  exact prepare_script setup other (p.onLine text n line)

/-- A `SWAP_CREATURE` acts at once, in the preload pass. -/
theorem inPreload_of_swap {text : String} {g : Game} {n : Nat} {line : Nat × List Char}
    (here : (scriptLines text)[n]? = some line) {l : ScriptLine}
    (read : (g.onPreloadLine text n line).lineRead .preload line.2 = .ok (some l))
    (verb : l.verb = .swapCreature) :
    g.inPreload text (n + 1) = (g.onPreloadLine text n line).afterSetup .preload line.2 l := by
  have outside : (g.onPreloadLine text n line).progress.blocks = [] := g.inPreload_outside text n
  have taken : (g.onPreloadLine text n line).progress.drops = false := by
    rw [Progress.drops, outside]
  have setup : l.verb.isSetupOnly = true := by rw [verb]; rfl
  have other : l.verb ≠ .levelVersion := fun same => by
    rw [verb] at same
    cases same
  rcases inPreload_succ text n g with ⟨line', there, next⟩ | ⟨ended, _⟩
  · obtain rfl := Option.some.inj (here.symm.trans there)
    exact next.trans (loadLine_of_setup setup other taken read)
  · rw [List.getElem?_eq_none ended] at here
    cases here

/-- The same keyword stands in front of a line for either pass, and belongs to one of them. -/
theorem lineRead_full_of_swap {early late : Game} {text : List Char} {l l' : ScriptLine}
    (read : early.lineRead .preload text = .ok (some l)) (verb : l.verb = .swapCreature) :
    late.lineRead .full text ≠ .ok (some l') := by
  intro read'
  rw [lineRead, ScriptLine.read_preload _ late.progress.levelVersion] at read
  obtain ⟨leads, -, -⟩ := ScriptLine.leading?_of_read read
  obtain ⟨leads', -, full⟩ := ScriptLine.leading?_of_read read'
  have same : l.usage = l'.usage := Option.some.inj (leads.symm.trans leads')
  have own : l'.verb = .swapCreature := (congrArg Usage.verb same).symm.trans verb
  rw [own] at full
  cases full

/-- **Setup commands inside blocks.** When a level is loaded, a setup line of the full pass that
    does not stand in a dropped block is carried out as it is read: blocks and announcements make no
    difference to world and store, and no entry is stored for later. So is a `SWAP_CREATURE`, in the
    preload pass. A line is on record for standing inside a block exactly if the full pass reads it
    as a setup line and a block is open then; so each of these lines is but `SWAP_CREATURE`, which
    never is. -/
theorem setup_inside_blocks (text : String) (g : Game) {n : Nat} {line : Nat × List Char}
    (here : (scriptLines text)[n]? = some line) :
    let p := (g.preload text).value
    let record := (g.loadLevel text).value.progress.diagnostics
    let early := g.onPreloadLine text n line
    let late := p.onLine text n line
    (∀ l, late.lineRead .full line.2 = .ok (some l) → l.verb.isSetupOnly = true →
      late.progress.drops = false →
      p.atPoint text (n + 1) = late.afterSetup .full line.2 l ∧
        (∃ parties, (p.atPoint text (n + 1)).script = { late.script with parties }) ∧
        (⟨line.1, .insideBlock l.usage.keyword⟩ ∈ record ↔ late.progress.inBlock = true)) ∧
    (∀ l, early.lineRead .preload line.2 = .ok (some l) → l.verb = .swapCreature →
      g.inPreload text (n + 1) = early.afterSetup .preload line.2 l ∧
        ∀ keyword, ⟨line.1, .insideBlock keyword⟩ ∉ record) ∧
    ∀ keyword, ⟨line.1, .insideBlock keyword⟩ ∈ record ↔ late.progress.inBlock = true ∧
      ∃ l, late.lineRead .full line.2 = .ok (some l) ∧ l.verb.isSetupOnly = true ∧
        l.usage.keyword = keyword := by
  intro p record early late
  have remarked (keyword : String) : ⟨line.1, .insideBlock keyword⟩ ∈ record ↔
      late.progress.inBlock = true ∧ ∃ l, late.lineRead .full line.2 = .ok (some l) ∧
        l.verb.isSetupOnly = true ∧ l.usage.keyword = keyword := by
    refine (mem_diagnostics_iff g here rfl).trans (misplaced?_eq_some.trans ?_)
    simp only [Remark.insideBlock.injEq, eq_comm (a := keyword)]
    rfl
  refine ⟨fun l read setup taken => ?_, fun l read verb => ?_, remarked⟩
  · obtain ⟨next, onlyParties⟩ := atPoint_of_setup here read setup taken
    refine ⟨next, onlyParties, ?_⟩
    rw [remarked]
    exact and_iff_left ⟨l, read, setup, rfl⟩
  · refine ⟨inPreload_of_swap here read verb, fun keyword said => ?_⟩
    obtain ⟨_, l', read', _⟩ := (remarked keyword).1 said
    exact lineRead_full_of_swap read verb read'

/-- Two setup lines in one block: both are carried out, and one is remarked on. -/
theorem setup_inside_blocks_of_swap :
    let text := "IF(PLAYER0,MONEY >= 0)\nSTART_MONEY(PLAYER0,500)\n" ++
      "SWAP_CREATURE(NEW_CREATURE_A,WIZARD)\nENDIF\n"
    let loaded := (loadLevel text default).value
    (((preload text default).value.atPoint text 2).world.dungeon 0).gold = 500 ∧
      ⟨2, .insideBlock "START_MONEY"⟩ ∈ loaded.progress.diagnostics ∧
      (inPreload text 3 default).world.swaps.size = 1 ∧
      ∀ keyword, ⟨3, .insideBlock keyword⟩ ∉ loaded.progress.diagnostics := by
  intro text loaded
  let money : ScriptLine := ⟨⟨"START_MONEY", [.word, .number], .startMoney⟩,
    ["PLAYER0", "500"], [0, 500]⟩
  let swap : ScriptLine := ⟨⟨"SWAP_CREATURE", [.word, .word], .swapCreature⟩,
    ["NEW_CREATURE_A", "WIZARD"], [0, 0]⟩
  let words := "START_MONEY(PLAYER0,500)".toList
  have second : (scriptLines text)[1]? = some (2, words) := by decide +kernel
  have third : (scriptLines text)[2]? =
      some (3, "SWAP_CREATURE(NEW_CREATURE_A,WIZARD)".toList) := by
    decide +kernel
  obtain ⟨full, -, -⟩ := setup_inside_blocks text default second
  obtain ⟨-, preload, -⟩ := setup_inside_blocks text default third
  let late := (Game.preload text default).value.onLine text 1 (2, words)
  -- one evaluation for all that is asked of this game
  obtain ⟨read, taken, inBlock, gold⟩ :
      (late.lineRead .full words).toOption = some (some money) ∧
        late.progress.drops = false ∧ late.progress.inBlock = true ∧
        ((late.afterSetup .full words money).world.dungeon 0).gold = 500 := by
    decide +kernel
  obtain ⟨done, -, remarked⟩ := full money (eq_ok_of_toOption read) rfl taken
  obtain ⟨early, silent⟩ := preload swap (eq_ok_of_toOption (by decide +kernel)) rfl
  refine ⟨?_, remarked.2 inBlock, ?_, silent⟩
  · rw [done]
    exact gold
  · rw [early]
    decide +kernel

end Game

end DungeonScript
