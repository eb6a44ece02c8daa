import DungeonScript.Proofs.Game.Announcing
import DungeonScript.Proofs.Game.Renumbering
import DungeonScript.Proofs.Grammar
import DungeonScript.Proofs.Lines

/-!
Lines that do nothing. A blank line, or a line of comment after `REM`, can be put in wherever
the reader starts a line, unless a reusable command is announced for the line to come: what a
level load leaves behind is the same, but for the numbers of the lines after it
(`idle_line_is_neutral`).

The lines after it are read under other numbers, which nothing looks at but the record. The
line itself, read as nothing, only brings an announcement one line nearer to its end; where
none is in force for the next line, that shows nowhere (`loadLines_unplaced`).
-/

namespace DungeonScript

/-! ## Lines that read as nothing -/

/-- A line of blanks, or a line of comment on which no block comment ends. -/
inductive IdleLine : List Char → Prop where
  | blank {line : List Char} (blanks : ∀ c ∈ line, c = ' ' ∨ c = '\t' ∨ c = '\r') : IdleLine line
  | comment {blank : Char} {text : List Char} (apart : blank = ' ' ∨ blank = '\t')
      (whole : '\n' ∉ text) (unended : ¬Lines.HoldsEnd text) :
      IdleLine ('R' :: 'E' :: 'M' :: blank :: text)

namespace IdleLine

variable {line : List Char}

theorem uncommented (idle : IdleLine line) : Lines.Uncommented line := by
  cases idle with
  | blank blanks =>
    have other : ∀ c ∈ line, c ≠ '\n' ∧ c ≠ '/' ∧ c ≠ '*' := by
      intro c member
      rcases blanks c member with rfl | rfl | rfl <;> decide
    refine ⟨fun feed => (other _ feed).1 rfl, fun rest opens => ?_, fun ends => ?_⟩
    · have slash : '/' ∈ line.dropWhile Lines.isIndent := by simp [opens]
      exact (other _ ((List.dropWhile_suffix _).subset slash)).2.1 rfl
    · exact (other '*' (ends.subset (by simp))).2.2 rfl
  | @comment blank text apart whole unended =>
    have notFeed : blank ≠ '\n' := by rcases apart with rfl | rfl <;> decide
    have notStar : blank ≠ '*' := by rcases apart with rfl | rfl <;> decide
    refine ⟨by simp [whole, Ne.symm notFeed], fun rest opens => ?_, ?_⟩
    · cases (List.cons.inj opens).1
    · simp [Lines.holdsEnd_cons, notStar, unended]

theorem dropReturn (idle : IdleLine line) : IdleLine (Lines.dropReturn line) := by
  cases idle with
  | blank blanks => exact .blank fun c member => blanks c (Lines.mem_of_mem_dropReturn member)
  | @comment blank text apart whole unended =>
    unfold Lines.dropReturn
    split
    · rename_i returns
      cases text with
      | nil => rcases apart with rfl | rfl <;> cases returns
      | cons c more =>
        have kept : (c :: more).dropLast <+: c :: more := List.dropLast_prefix _
        exact .comment apart (fun feed => whole (kept.subset feed))
          fun ends => unended (ends.trans kept.isInfix)
    · exact .comment apart whole unended

/-- Either pass finds nothing on such a line, and rolls and says nothing. -/
theorem read (idle : IdleLine line) (levelVersion : Int) (pass : Pass) (dice : Dice) :
    ScriptLine.read levelVersion pass line dice = ⟨.ok none, dice, []⟩ := by
  cases idle with
  | blank blanks =>
    have nothing : (Cursor.ofLine line).rest.dropWhile (!Word.starts ·) = [] := by
      refine List.dropWhile_eq_nil_iff.2 fun c member => ?_
      rcases blanks c ((List.takeWhile_prefix _).subset member) with rfl | rfl | rfl <;> decide
    simp only [ScriptLine.read, Cursor.next, nothing]
    rfl
  | @comment blank text apart whole unended =>
    have known : (⟨"REM", [], .rem⟩ : Usage) ∈ Grammar.ofVersion levelVersion := by
      unfold Grammar.ofVersion
      split <;> decide
    have first : (Cursor.ofLine ('R' :: 'E' :: 'M' :: blank :: text)).next dice =
        ⟨.ok (some ⟨.name, "REM"⟩), ⟨blank :: text.takeWhile (!Word.isLineEnd ·), false⟩, dice,
          [], none⟩ := by
      rcases apart with rfl | rfl <;> rfl
    simp only [ScriptLine.read, first, ScriptLine.keyword?, Grammar.find?_of_mem known]
    rfl

end IdleLine

/-! ## One line more -/

namespace Game

/-- The game without what the reader knows of its place among the lines. -/
def unplaced (g : Game) : Game := { g with
  progress := { g.progress with line := 0, reusableLines := 0 } }

/-- Where nothing is announced for the next line, the next line sets the reader's place. -/
theorem loadLine_unplaced {g : Game} (unannounced : g.progress.reusableLines ≤ 1) (pass : Pass)
    (line : Nat × List Char) : loadLine pass line g = loadLine pass line g.unplaced := by
  have used : g.progress.reusableLines - 1 = 0 := by omega
  have same : g.progress.atLine line.1 = g.unplaced.progress.atLine line.1 := by
    simp only [Progress.atLine, unplaced, used]
  unfold loadLine
  rw [same]
  rfl

theorem loadLines_unplaced {g : Game} (unannounced : g.progress.reusableLines ≤ 1) (pass : Pass)
    (lines : List (Nat × List Char)) :
    (loadLines pass lines g).value.unplaced = (loadLines pass lines g.unplaced).value.unplaced := by
  cases lines with
  | nil => rfl
  | cons line rest => rw [loadLines, loadLines, loadLine_unplaced unannounced]

theorem loadLine_idle_value {line : List Char} (idle : IdleLine line) (pass : Pass) (number : Nat)
    (g : Game) : (loadLine pass (number, line) g).value =
      { g with progress := g.progress.atLine number } := by
  rw [loadLine_value, scanLine_value]
  simp only [idle.read]
  simp [afterReading, noted]

/-- An idle line that is put in shows in nothing but the numbers of the lines after it. -/
theorem loadLines_insert {line : List Char} (idle : IdleLine line) (pass : Pass) (f : Nat → Nat)
    (before after : List (Nat × List Char)) (number : Nat) (g : Game)
    (unannounced : (loadLines pass before g).value.progress.reusableLines ≤ 1) :
    (loadLines pass (before.map (fun line => (f line.1, line.2)) ++
        (number, line) :: after.map fun line => (f line.1, line.2)) (g.renumbered f)).value.unplaced =
      ((loadLines pass (before ++ after) g).value.renumbered f).unplaced := by
  -- up to here both loads are alike but for the numbers; after the line only the place differs,
  -- and the first line after it sets the place anew
  let here := (loadLines pass before g).value.renumbered f
  have unchanged : (loadLine pass (number, line) here).value.unplaced = here.unplaced := by
    rw [loadLine_idle_value idle]
    rfl
  have one : (loadLine pass (number, line) here).value.progress.reusableLines ≤ 1 := by
    rw [loadLine_idle_value idle]
    exact Nat.le_trans (Nat.sub_le _ _) unannounced
  have none : here.progress.reusableLines ≤ 1 := unannounced
  rw [loadLines_append, loadLines_append, loadLines_renumbered, ← loadLines_renumbered f _ pass after]
  show (loadLines pass _ (loadLine pass (number, line) here).value).value.unplaced = _
  rw [loadLines_unplaced one, unchanged, ← loadLines_unplaced none]

/-! ## A whole load -/

theorem LineEnd.reusableLines_of_preload {text : List Char} {g g' : Game} {f : Option Fault}
    (h : LineEnd .preload text g g' f) :
    g'.progress.reusableLines = g.progress.reusableLines := by
  rcases h.idle_or_registered with idle | ⟨l, c, k, read, _, meaning, heard, registered⟩
  · exact idle.reusableLines
  · refine ((register_registered registered).reusableLines fun same => ?_).trans
      heard.reusableLines
    subst same
    have verb := Command.resolve_nextReusable g.world g.script l _ meaning rfl
    have taken := (ScriptLine.leading?_of_read read).2.2
    rw [verb] at taken
    cases taken

theorem loadLines_preload_reusableLines (lines : List (Nat × List Char)) {g : Game}
    (none : g.progress.reusableLines = 0) :
    (loadLines .preload lines g).value.progress.reusableLines = 0 := by
  refine loadLines_keeps (P := fun h => h.progress.reusableLines = 0) ?_ lines none
  intro line h none
  refine (loadLine_heard .preload line h).reusableLines.trans ?_
  rw [(scanLine_ends .preload line.2 _).reusableLines_of_preload]
  show h.progress.reusableLines - 1 = 0
  rw [none]

/-- The number of a line once there is one line more after the first `n`. -/
def shiftedAfter (n : Nat) (line : Nat) : Nat := if line ≤ n then line else line + 1

theorem scriptLines_insert {before line after : String}
    (starts : Lines.StartsLine before.toList after.toList) (plain : Lines.Uncommented line.toList) :
    let n := Lines.breaks before.toList
    let shifted := List.map fun line : Nat × List Char => (shiftedAfter n line.1, line.2)
    scriptLines (before ++ line ++ "\n" ++ after) =
      shifted (scriptLines before) ++ (1 + n, Lines.dropReturn line.toList) ::
        shifted (Lines.numberedFrom (1 + n) after.toList) := by
  intro n shifted
  have text : (before ++ line ++ "\n" ++ after).toList =
      before.toList ++ (line.toList ++ '\n' :: after.toList) := by
    simp [String.toList_append]
  have early : shifted (scriptLines before) = scriptLines before := by
    refine (List.map_congr_left fun line member => ?_).trans (List.map_id _)
    have := Lines.lt_of_mem_numberedFrom starts member
    show (shiftedAfter n line.1, line.2) = line
    rw [shiftedAfter, if_pos (by omega)]
  have late : shifted (Lines.numberedFrom (1 + n) after.toList) =
      (Lines.numberedFrom (1 + n) after.toList).map fun line => (line.1 + 1, line.2) := by
    refine List.map_congr_left fun line member => ?_
    have := Lines.le_of_mem_numberedFrom member
    rw [shiftedAfter, if_neg (by omega)]
  rw [early, late, scriptLines, text, Lines.numberedFrom_insert starts plain]
  rfl

theorem scriptLines_append {before after : String}
    (starts : Lines.StartsLine before.toList after.toList) :
    scriptLines (before ++ after) = scriptLines before ++
      Lines.numberedFrom (1 + Lines.breaks before.toList) after.toList := by
  rw [scriptLines, String.toList_append, Lines.numberedFrom_append starts]
  rfl

def summary (g : Game) : List Remark :=
  (if g.script.wins.isEmpty then [.nothingWins] else []) ++
    (if g.progress.inBlock then [.missingEndif] else []) ++ [.resources (shelfUse g.script)]

theorem report_value (r : Remark) (g : Game) : (g.report r).value = g.noted [r] := rfl

theorem reportIf_value (c : Bool) (r : Remark) (g : Game) :
    (g.reportIf c r).value = g.noted (if c then [r] else []) := by
  unfold reportIf
  split
  · rfl
  · simp [noted]

theorem sumUp_value (g : Game) : g.sumUp.value = g.noted g.summary := by
  simp only [sumUp, Logged.value_bind, reportIf_value, report_value, noted_noted]
  rfl

theorem load_value (text : String) (g : Game) : (g.load text).value =
    { (loadLines .full (scriptLines text) g.cleared).value with
      progress := (loadLines .full (scriptLines text) g.cleared).value.progress.outside }.noted
        (loadLines .full (scriptLines text) g.cleared).value.summary :=
  sumUp_value _

theorem load_unplaced (text : String) (g : Game) : (g.load text).value.unplaced =
    let h := (loadLines .full (scriptLines text) g.cleared).value.unplaced
    h.noted h.summary := by
  rw [load_value]
  rfl

theorem preload_cleared (text : String) (g : Game) : (g.preload text).value.cleared =
    (loadLines .preload (scriptLines text)
      { g with progress := .start, script := g.script.clearQuickTexts }).value.unplaced.cleared :=
  rfl

theorem renumbered_unplaced (n : Nat) (g : Game) : (g.renumbered (shiftedAfter n)).unplaced =
    g.unplaced.renumbered (shiftedAfter n) := by
  simp [unplaced, renumbered, shiftedAfter]

section Insert

variable {before line after : String}
  (starts : Lines.StartsLine before.toList after.toList) (idle : IdleLine line.toList)
include starts idle

/-- One pass over a text with an idle line more. -/
theorem pass_insert (pass : Pass) (g : Game)
    (unannounced : (loadLines pass (scriptLines before) g).value.progress.reusableLines ≤ 1) :
    (loadLines pass (scriptLines (before ++ line ++ "\n" ++ after))
        (g.renumbered (shiftedAfter (Lines.breaks before.toList)))).value.unplaced =
      (loadLines pass (scriptLines (before ++ after)) g).value.unplaced.renumbered
        (shiftedAfter (Lines.breaks before.toList)) := by
  rw [scriptLines_insert starts idle.uncommented, scriptLines_append starts, ← renumbered_unplaced]
  exact loadLines_insert idle.dropReturn pass _ _ _ _ g unannounced

/-- The full pass finds the same game after the preload pass. -/
theorem preload_insert (g : Game) :
    (preload (before ++ line ++ "\n" ++ after) g).value.cleared =
      (preload (before ++ after) g).value.cleared.renumbered
        (shiftedAfter (Lines.breaks before.toList)) := by
  let start := { g with progress := .start, script := g.script.clearQuickTexts }
  have noRecord : start.renumbered (shiftedAfter (Lines.breaks before.toList)) = start := by
    simp [start, renumbered, Progress.start, shiftedAfter]
  have none : (loadLines .preload (scriptLines before) start).value.progress.reusableLines = 0 :=
    loadLines_preload_reusableLines _ rfl
  have pass := pass_insert starts idle .preload start (by omega)
  rw [noRecord] at pass
  rw [preload_cleared, preload_cleared, pass]
  rfl

theorem loadLevel_insert (g : Game)
    (unannounced : ¬(preload (before ++ after) g).value.AfterAnnouncement (before ++ after)
      (scriptLines before).length) :
    (loadLevel (before ++ line ++ "\n" ++ after) g).value.unplaced =
      (loadLevel (before ++ after) g).value.unplaced.renumbered
        (shiftedAfter (Lines.breaks before.toList)) := by
  have lines := scriptLines_append starts
  have inside : (scriptLines before).length ≤ (scriptLines (before ++ after)).length := by
    rw [lines, List.length_append]
    omega
  have few : (loadLines .full (scriptLines before)
      (preload (before ++ after) g).value.cleared).value.progress.reusableLines ≤ 1 := by
    obtain ⟨atMost, two⟩ := atPoint_reusableLines _ (preload (before ++ after) g).value inside
    rw [atPoint, lines, List.take_left] at atMost two
    have notTwo := mt two.1 unannounced
    omega
  have pass := pass_insert starts idle .full _ few
  show (load _ (preload _ g).value).value.unplaced = (load _ (preload _ g).value).value.unplaced.renumbered _
  rw [load_unplaced, load_unplaced, preload_insert starts idle, pass]
  exact noted_renumbered _ _ _

end Insert

/-- **Blank lines and lines of comment are neutral.** Such a line can be put in anywhere between
    the lines of a text, but inside of a terminated comment and right after an announcement that
    is accepted. The level load with it leaves the same script and the same world, the same dice,
    level version and blocks, and the same record, with every number greater by one that belongs
    to a line after it. -/
theorem idle_line_is_neutral {before line after : String} (g : Game)
    (between : Lines.WholeLines before.toList)
    (outside : ¬Lines.InComment before.toList after.toList) (idle : IdleLine line.toList)
    (unannounced : ¬(preload (before ++ after) g).value.AfterAnnouncement (before ++ after)
      (scriptLines before).length) :
    let h := (loadLevel (before ++ after) g).value
    let h' := (loadLevel (before ++ line ++ "\n" ++ after) g).value
    h'.script = h.script ∧ h'.world = h.world ∧ h'.dice = h.dice ∧
      h'.progress.levelVersion = h.progress.levelVersion ∧ h'.progress.blocks = h.progress.blocks ∧
      h'.progress.diagnostics = h.progress.diagnostics.map
        (Diagnostic.renumbered (shiftedAfter (Lines.breaks before.toList))) := by
  intro h h'
  have starts := (Lines.startsLine_or_inComment between after.toList).resolve_right outside
  have same : h'.unplaced = h.unplaced.renumbered (shiftedAfter (Lines.breaks before.toList)) :=
    loadLevel_insert starts idle g unannounced
  exact ⟨(congrArg Game.script same :), (congrArg Game.world same :), (congrArg Game.dice same :),
    (congrArg (fun g : Game => g.progress.levelVersion) same :),
    (congrArg (fun g : Game => g.progress.blocks) same :),
    (congrArg (fun g : Game => g.progress.diagnostics) same :)⟩

/-- A line of comment inside a block. What stands on it is not read, and the remark on the
    second `ENDIF` is about line 4 instead of line 3. -/
theorem comment_line_is_neutral :
    let before := "IF(PLAYER0,MONEY,>,RANDOM(1,9))\n"
    let line := "REM RANDOM(1,2) ENDIF \"open /*"
    let after := "ENDIF\nENDIF\n"
    let h := (loadLevel (before ++ after) default).value
    let h' := (loadLevel (before ++ line ++ "\n" ++ after) default).value
    h'.script = h.script ∧ h'.dice = h.dice ∧
      h.progress.diagnostics.map Diagnostic.line = [3, 0, 0] ∧
      h'.progress.diagnostics.map Diagnostic.line = [4, 0, 0] := by
  intro before line after h h'
  have between : Lines.WholeLines before.toList :=
    .inr ⟨"IF(PLAYER0,MONEY,>,RANDOM(1,9))".toList, by decide +kernel⟩
  have outside : ¬Lines.InComment before.toList after.toList := by
    rintro ⟨_, _, _, _, _, _, _, ends⟩
    exact absurd ends (by decide +kernel)
  have words : line.toList = 'R' :: 'E' :: 'M' :: ' ' :: "RANDOM(1,2) ENDIF \"open /*".toList := by
    decide +kernel
  have idle : IdleLine line.toList := by
    rw [words]
    exact .comment (.inl rfl) (by decide) (by decide)
  have unannounced : ¬(preload (before ++ after) default).value.AfterAnnouncement (before ++ after)
      (scriptLines before).length := fun announced =>
    absurd ((atPoint_reusableLines _ _ (by decide +kernel)).2.2 announced) (by decide +kernel)
  obtain ⟨script, _, dice, _, _, record⟩ :=
    idle_line_is_neutral default between outside idle unannounced
  have lines : h.progress.diagnostics.map Diagnostic.line = [3, 0, 0] := by decide +kernel
  refine ⟨script, dice, lines, ?_⟩
  calc h'.progress.diagnostics.map Diagnostic.line
      = (h.progress.diagnostics.map Diagnostic.line).map (shiftedAfter (Lines.breaks before.toList)) := by
        rw [record, List.map_map, List.map_map]
        rfl
    _ = [4, 0, 0] := by
        rw [lines]
        decide +kernel

end Game

end DungeonScript
