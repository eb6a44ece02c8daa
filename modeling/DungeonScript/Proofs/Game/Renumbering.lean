import DungeonScript.Proofs.Game.Storing

/-!
Other line numbers. A load puts the numbers of lines on record and looks at them nowhere
else, so a load under other numbers is the load with a record under other numbers
(`loadLines_renumbered`). Each stage of a line commutes with renumbering.
-/

namespace DungeonScript

/-- The diagnostic about the line with another number. -/
def Diagnostic.renumbered (f : Nat → Nat) (d : Diagnostic) : Diagnostic := { d with line := f d.line }

namespace Game

/-- The game with other line numbers on record. -/
def renumbered (f : Nat → Nat) (g : Game) : Game := { g with
  progress := { g.progress with
    line := f g.progress.line
    diagnostics := g.progress.diagnostics.map (Diagnostic.renumbered f) } }

section Renumbered

variable (f : Nat → Nat) (g : Game)

theorem report_renumbered (r : Remark) :
    ((g.renumbered f).report r).value = (g.report r).value.renumbered f := by
  simp [report, Progress.report, renumbered, Diagnostic.renumbered]

theorem hear_renumbered (asides : List Aside) :
    (hear asides (g.renumbered f)).value = (hear asides g).value.renumbered f := by
  induction asides generalizing g with
  | nil => rfl
  | cons a rest ih =>
    cases a with
    | remark r =>
      show (hear rest ((g.renumbered f).report r).value).value = _
      rw [report_renumbered, ih]
      rfl
    | caution c => exact ih g
    | quickText index text => exact ih { g with script := g.script.setQuickText index text }

theorem passOver_renumbered (v : Verb) :
    (g.renumbered f).passOver v = (g.passOver v).renumbered f := by
  unfold passOver
  split <;> rfl

theorem withScript_renumbered (s : Attempt Script) :
    (g.renumbered f).withScript s = (g.withScript s).map (renumbered f) := rfl

theorem openCondition_renumbered (players : Selector) (test : Test) :
    (g.renumbered f).openCondition players test =
      (g.openCondition players test).map (renumbered f) := by
  have script : (g.renumbered f).script = g.script := rfl
  have condition : (g.renumbered f).progress.condition? = g.progress.condition? := rfl
  unfold openCondition
  rw [script, condition]
  dsimp only
  cases (g.script.addCondition ⟨g.progress.condition?, players, test, .unasked⟩).fault <;> rfl

theorem closeCondition_renumbered :
    (g.renumbered f).closeCondition = g.closeCondition.map (renumbered f) := by
  have blocks : (g.renumbered f).progress.blocks = g.progress.blocks := rfl
  unfold closeCondition Progress.closed
  rw [blocks]
  cases g.progress.blocks <;> rfl

theorem createParty_renumbered (name : String) :
    ((g.renumbered f).createParty name).value = (g.createParty name).value.map (renumbered f) := by
  have found : (g.renumbered f).script.findParty? name = g.script.findParty? name := rfl
  unfold createParty
  rw [found]
  cases g.script.findParty? name with
  | some id => exact congrArg Attempt.done (report_renumbered f g (.partyAgain name))
  | none => exact withScript_renumbered f g _

theorem addToParty_renumbered (party : String) (m : Member) :
    (g.renumbered f).addToParty party m = (g.addToParty party m).map (renumbered f) := by
  have found : (g.renumbered f).script.findParty? party = g.script.findParty? party := rfl
  unfold addToParty
  rw [found]
  cases g.script.findParty? party with
  | some id => exact withScript_renumbered f g _
  | none => rfl

theorem addVerdict_renumbered (v : Verdict) :
    (g.renumbered f).addVerdict v = (g.addVerdict v).map (renumbered f) := by
  have condition : (g.renumbered f).progress.condition? = g.progress.condition? := rfl
  unfold addVerdict
  rw [condition]
  cases g.progress.condition? with
  | some id => exact withScript_renumbered f g _
  | none => rfl

theorem setUp_renumbered (s : Setup) :
    ((g.renumbered f).setUp s).value = (g.setUp s).value.map (renumbered f) := rfl

theorem register_renumbered (c : Command) :
    ((g.renumbered f).register c).value = (g.register c).value.map (renumbered f) := by
  have defers : (g.renumbered f).progress.defers = g.progress.defers := rfl
  cases c with
  | condition players test => exact openCondition_renumbered f g players test
  | endif => exact closeCondition_renumbered f g
  | effect e =>
    simp only [register, defers]
    split
    · exact withScript_renumbered f g _
    · rfl
  | spawn s =>
    simp only [register, defers]
    split
    · exact withScript_renumbered f g _
    · rfl
  | tunneller t =>
    simp only [register, defers]
    split
    · exact withScript_renumbered f g _
    · rfl
  | createParty name => exact createParty_renumbered f g name
  | addToParty party m => exact addToParty_renumbered f g party m
  | setup s => exact setUp_renumbered f g s
  | verdict v => exact addVerdict_renumbered f g v
  | nextReusable => rfl
  | levelVersion version => rfl
  | withoutEffect keyword => exact congrArg Attempt.done (report_renumbered f g _)
  | comment => rfl

theorem carryOut_renumbered (l : ScriptLine) :
    ((g.renumbered f).carryOut l).value = (g.carryOut l).value.map (renumbered f) := by
  have meant : Command.resolve (g.renumbered f).world (g.renumbered f).script l =
      Command.resolve g.world g.script l := rfl
  unfold carryOut
  simp only [Logged.value_bind, meant, hear_renumbered]
  cases (Command.resolve g.world g.script l).outcome with
  | error e =>
    simp only [Logged.value_pure, passOver_renumbered]
    rfl
  | ok c =>
    simp only [Logged.value_bind, register_renumbered, Attempt.fault_map, Attempt.left_map]
    cases ((hear (Command.resolve g.world g.script l).asides g).value.register c).value.fault with
    | some e =>
      simp only [Logged.value_pure, passOver_renumbered]
      rfl
    | none => rfl

theorem remarkedOn_renumbered (l : ScriptLine) :
    (g.renumbered f).remarkedOn l = (g.remarkedOn l).renumbered f := by
  show (if l.verb.isSetupOnly && g.progress.inBlock then _ else _) = _
  unfold remarkedOn
  split
  · exact report_renumbered f g _
  · rfl

theorem takeLine_renumbered (l : ScriptLine) :
    ((g.renumbered f).takeLine l).value = (g.takeLine l).value.map (renumbered f) := by
  rw [takeLine_value, takeLine_value, remarkedOn_renumbered]
  show (if (g.remarkedOn l).progress.drops && l.verb ≠ .endif then _ else _) = _
  split
  · rw [passOver_renumbered, report_renumbered]
    rfl
  · exact carryOut_renumbered f _ l

theorem noted_renumbered (remarks : List Remark) :
    (g.renumbered f).noted remarks = (g.noted remarks).renumbered f := by
  simp [noted, renumbered, Diagnostic.renumbered]

theorem scanLine_renumbered (pass : Pass) (text : List Char) :
    (scanLine pass text (g.renumbered f)).value =
      (scanLine pass text g).value.map (renumbered f) := by
  rw [scanLine_value, scanLine_value]
  -- both read the same, with the same dice
  show afterReading (noted _ (renumbered f { g with dice := _ })) (g.lineRead pass text) =
    (afterReading (noted _ { g with dice := _ }) (g.lineRead pass text)).map (renumbered f)
  rw [noted_renumbered]
  cases g.lineRead pass text with
  | error e => rfl
  | ok o =>
    cases o with
    | none => rfl
    | some l => exact takeLine_renumbered f _ l

/-- A line under another number does the same, under the other number. -/
theorem loadLine_renumbered (pass : Pass) (line : Nat × List Char) :
    (loadLine pass (f line.1, line.2) (g.renumbered f)).value =
      (loadLine pass line g).value.renumbered f := by
  have scanned : (scanLine pass line.2 { g.renumbered f with
      progress := (g.renumbered f).progress.atLine (f line.1) }).value = _ :=
    scanLine_renumbered f { g with progress := g.progress.atLine line.1 } pass line.2
  rw [loadLine_value, loadLine_value, scanned]
  generalize (scanLine pass line.2 { g with progress := g.progress.atLine line.1 }).value = r
  obtain ⟨g', fault⟩ := r
  cases fault with
  | none => rfl
  | some e => exact report_renumbered f g' (.fault e)

/-- A load under other line numbers is the load, with other line numbers on record. -/
theorem loadLines_renumbered (pass : Pass) (lines : List (Nat × List Char)) :
    (loadLines pass (lines.map fun line => (f line.1, line.2)) (g.renumbered f)).value =
      (loadLines pass lines g).value.renumbered f := by
  induction lines generalizing g with
  | nil => rfl
  | cons line rest ih =>
    show (loadLines pass _ (loadLine pass (f line.1, line.2) (g.renumbered f)).value).value = _
    rw [loadLine_renumbered, ih]
    rfl

end Renumbered

end Game

end DungeonScript
