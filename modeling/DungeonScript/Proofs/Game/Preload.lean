import DungeonScript.Proofs.Game.Balance
import DungeonScript.Proofs.Rolls
import Mathlib.Algebra.GroupWithZero.Nat

/-!
The preload pass, over a text without lines of its own. It leaves the world and the level
version alone and takes no command. But to find out that a line is not its own it reads the
first word, and what that does is done: if the word is `RANDOM` the dice are rolled, and a
word that cannot be read goes on record. The full pass reads the line from the start again.

So over both passes a line is read once, and its first word once more
(`preload_reads_first_words`). Where no line starts with such a word the preload pass does
nothing at all: whatever there is to say about the words of a line is on record once, and a
`RANDOM` is rolled once at most. A first word that cannot be read is on record twice
(`first_word_on_record_twice`).
-/

namespace DungeonScript

/-! ## Lines and their first words -/

def Scanned.remarks (s : Scanned) : List Remark :=
  s.asides.filterMap Aside.remark? ++ match s.word with
    | .error f => [.fault (.scan f)]
    | .ok _ => []

def DicedReading.remarks {α : Type} (r : DicedReading α) : List Remark :=
  r.asides.filterMap Aside.remark? ++ match r.outcome with
    | .error f => [.fault f]
    | .ok _ => []

namespace ScriptLine

/-- The first word of the line is this keyword. -/
def StartsWith (keyword : String) (text : List Char) : Prop :=
  ((Cursor.ofLine text).next default).word.toOption = some (some ⟨.name, keyword⟩)

/-- The line has no command of the preload pass in front. -/
def Foreign (text : List Char) : Prop :=
  ¬StartsWith "LEVEL_VERSION" text ∧ ¬StartsWith "SWAP_CREATURE" text

instance (keyword : String) (text : List Char) : Decidable (StartsWith keyword text) :=
  inferInstanceAs (Decidable (_ = _))

instance (text : List Char) : Decidable (Foreign text) := inferInstanceAs (Decidable (_ ∧ _))

/-- The first word of the line can be read, and is not `RANDOM`. -/
structure SoundStart (text : List Char) : Prop where
  plain : (Cursor.ofLine text).rolls = false
  readable : ∃ word, ((Cursor.ofLine text).next default).word = .ok word

/-- The first word of a line read with these dice: the remarks, and the dice after it. -/
def firstWord (text : List Char) (dice : Dice) : List Remark × Dice :=
  let s := (Cursor.ofLine text).next dice
  (s.remarks, s.dice)

/-- A line of the full pass read with these dice, the level version being that of a text
    which names none. -/
def wholeLine (text : List Char) (dice : Dice) : List Remark × Dice :=
  let r := read defaultLevelVersion .full text dice
  (r.remarks, r.dice)

theorem fault_of_next {c : Cursor} {dice : Dice} {f : ScanFault}
    (h : (c.next dice).word = .error f) : (c.next default).word = .error f := by
  have same := congrArg Prod.fst (c.next_outline dice default)
  simp only [Scanned.outline, h] at same
  cases hw : (c.next default).word with
  | error f' =>
    rw [hw] at same
    cases same
    rfl
  | ok o =>
    rw [hw] at same
    cases same

theorem firstWord_of_sound {text : List Char} (sound : SoundStart text) (dice : Dice) :
    firstWord text dice = ([], dice) := by
  obtain ⟨same, silent⟩ := Cursor.next_of_plain sound.plain dice
  obtain ⟨word, readable⟩ := sound.readable
  unfold firstWord Scanned.remarks
  simp only [same, silent]
  cases h : ((Cursor.ofLine text).next dice).word with
  | error f =>
    rw [fault_of_next h] at readable
    cases readable
  | ok _ => rfl

theorem firstWord_within (text : List Char) (dice : Dice) :
    dice.Within (if (Cursor.ofLine text).rolls then 1 else 0) (firstWord text dice).2 :=
  (Cursor.ofLine text).next_within dice

theorem wholeLine_within (text : List Char) (dice : Dice) :
    dice.Within (Cursor.ofLine text).randoms (wholeLine text dice).2 :=
  read_within defaultLevelVersion .full text dice

theorem keyword_of_preloaded (levelVersion : Int) : ∀ u ∈ Grammar.ofVersion levelVersion,
    u.verb.isPreloaded = true → u.keyword = "LEVEL_VERSION" ∨ u.keyword = "SWAP_CREATURE" := by
  unfold Grammar.ofVersion
  split
  · decide
  · decide

/-- A keyword of the preload pass is one of these two words. -/
theorem not_foreign_of_leading? {levelVersion : Int} {text : List Char} {u : Usage}
    (h : leading? levelVersion text = some u) (preloaded : u.verb.isPreloaded = true) :
    ¬Foreign text := by
  intro foreign
  have known := mem_grammar_of_leading? h
  unfold leading? at h
  split at h
  · rename_i first word
    unfold keyword? at h
    split at h
    · rename_i kind
      have spelled : u.keyword = first.text := by
        simpa using List.find?_some h
      have starts : StartsWith u.keyword text := by
        unfold StartsWith
        rw [word, spelled, ← kind]
        rfl
      rcases keyword_of_preloaded levelVersion u known preloaded with level | swap
      · exact foreign.1 (level ▸ starts)
      · exact foreign.2 (swap ▸ starts)
    · cases h
  · cases h

/-- Of a line that is not its own, the preload pass reads the first word. -/
theorem read_of_foreign {text : List Char} (foreign : Foreign text) (levelVersion : Int)
    (dice : Dice) :
    let r := read levelVersion .preload text dice
    (r.remarks, r.dice) = firstWord text dice ∧ ∀ l, r.outcome ≠ .ok (some l) := by
  -- no keyword that could stand in front is for this pass
  have skipped : ∀ first, ((Cursor.ofLine text).next dice).word = .ok (some first) →
      ∀ u, keyword? levelVersion first = some u → u.verb.isPreloaded = false := by
    intro first word u found
    have leading : leading? levelVersion text = some u := by
      rw [leading?_eq levelVersion text dice, word]
      exact found
    exact eq_false_of_ne_true fun preloaded => not_foreign_of_leading? leading preloaded foreign
  unfold firstWord Scanned.remarks DicedReading.remarks
  cases word : ((Cursor.ofLine text).next dice).word with
  | error f => simp [read, word]
  | ok o =>
    cases o with
    | none => simp [read, word]
    | some first => simp [read_of_not_preloaded word (skipped first word), word]

theorem ofReading_filterMap {asides : List Aside} (h : ∀ a ∈ asides, a.OfReading) :
    ∀ m ∈ asides.filterMap Aside.remark?, m.ofReading = true := by
  intro m hm
  obtain ⟨a, ha, same⟩ := List.mem_filterMap.1 hm
  have early := h a ha
  cases a with
  | remark r =>
    obtain rfl := Option.some.inj same
    exact early
  | caution c => cases same
  | quickText index t => cases same

theorem ofReading_firstWord (text : List Char) (dice : Dice) :
    ∀ m ∈ (firstWord text dice).1, m.ofReading = true := by
  intro m hm
  rcases List.mem_append.1 hm with said | failed
  · exact ofReading_filterMap (Scanned.ofReading_asides _) m said
  · split at failed
    · obtain rfl := List.mem_singleton.1 failed
      rfl
    · cases failed

/-- All that is remarked on by reading a line is about its words. -/
theorem ofReading_remarks (levelVersion : Int) (pass : Pass) (text : List Char) (dice : Dice) :
    ∀ m ∈ (read levelVersion pass text dice).remarks, m.ofReading = true := by
  intro m hm
  rcases List.mem_append.1 hm with said | failed
  · exact ofReading_filterMap (ofReading_read levelVersion pass text dice) m said
  · split at failed
    · rename_i f outcome
      obtain rfl := List.mem_singleton.1 failed
      rcases read_fault outcome with ⟨_, rfl⟩ | ⟨_, rfl⟩ | ⟨_, rfl⟩
      · rfl
      · rfl
      · rfl
    · cases failed

end ScriptLine

/-! ## Reading through a text -/

open ScriptLine

/-- Numbered lines read in order: the remarks with the numbers of their lines, and the dice
    after the last. -/
def readThrough (read : List Char → Dice → List Remark × Dice) :
    List (Nat × List Char) → Dice → List Diagnostic × Dice
  | [], dice => ([], dice)
  | line :: rest, dice =>
    let here := read line.2 dice
    let later := readThrough read rest here.2
    (here.1.map (⟨line.1, ·⟩) ++ later.1, later.2)

theorem readThrough_within {read : List Char → Dice → List Remark × Dice}
    {rolls : List Char → Nat} (h : ∀ text dice, Dice.Within (rolls text) dice (read text dice).2)
    (lines : List (Nat × List Char)) (dice : Dice) :
    dice.Within (lines.map fun line => rolls line.2).sum (readThrough read lines dice).2 := by
  induction lines generalizing dice with
  | nil => exact dice.within_refl _
  | cons line rest ih =>
    rw [List.map_cons, List.sum_cons]
    exact (h line.2 dice).trans (ih (read line.2 dice).2)

theorem readThrough_of_sound {lines : List (Nat × List Char)}
    (sound : ∀ line ∈ lines, SoundStart line.2) (dice : Dice) :
    readThrough firstWord lines dice = ([], dice) := by
  induction lines with
  | nil => rfl
  | cons line rest ih =>
    have here := firstWord_of_sound (sound line List.mem_cons_self) dice
    have later := ih fun l hl => sound l (List.mem_cons_of_mem _ hl)
    simp only [readThrough, here, later]
    rfl

theorem readThrough_ofReading {read : List Char → Dice → List Remark × Dice}
    (h : ∀ text dice, ∀ m ∈ (read text dice).1, m.ofReading = true)
    (lines : List (Nat × List Char)) (dice : Dice) :
    (readThrough read lines dice).1.filter (·.remark.ofReading) = (readThrough read lines dice).1 := by
  rw [List.filter_eq_self]
  induction lines generalizing dice with
  | nil => exact fun _ hd => absurd hd List.not_mem_nil
  | cons line rest ih =>
    intro d hd
    rcases List.mem_append.1 hd with here | later
    · obtain ⟨m, hm, rfl⟩ := List.mem_map.1 here
      exact h line.2 dice m hm
    · exact ih _ d later

namespace Game

/-! ## What goes on record -/

/-- What has been remarked on while words were read. -/
def record (g : Game) : List Diagnostic := g.progress.diagnostics.filter (·.remark.ofReading)

/-- `g'` has the dice of `g`, and the same words remarked on. -/
structure Quiet (g g' : Game) : Prop where
  dice : g'.dice = g.dice
  record : g'.record = g.record

section Quiet

variable {g g' g'' : Game}

theorem Quiet.refl (g : Game) : Quiet g g := ⟨rfl, rfl⟩

theorem Quiet.trans (h : Quiet g g') (h' : Quiet g' g'') : Quiet g g'' :=
  ⟨h'.dice.trans h.dice, h'.record.trans h.record⟩

theorem aloof_ofReading : Remark.Aloof Remark.ofReading where
  meaning meant := (Remark.eq_false_of_ofMeaning meant).1
  partyAgain _ := rfl
  withoutEffect _ := rfl

theorem report_quiet {r : Remark} (later : r.ofReading = false) (g : Game) :
    Quiet g (g.report r).value :=
  ⟨rfl, said_report_of_not later g⟩

theorem passOver_quiet (v : Verb) (g : Game) : Quiet g (g.passOver v) :=
  ⟨passOver_dice v g, passOver_said Remark.ofReading v g⟩

theorem Refused.later {c : Command} {f : Fault} (refused : Refused g c f) :
    (Remark.fault f).ofReading = false := by
  cases refused <;> rfl

/-- What a line does once it has been read does not roll, nor remark on its words. -/
theorem carryOut_quiet (l : ScriptLine) (g : Game) : Quiet g (g.carryOut l).value.left ∧
    ∀ f, (g.carryOut l).value.fault = some f → (Remark.fault f).ofReading = false := by
  obtain ⟨record, dice, faults⟩ := carryOut_said aloof_ofReading l g
  refine ⟨⟨dice, record⟩, fun f failed => ?_⟩
  rcases faults f failed with meant | ⟨_, _, refused⟩
  · exact (Remark.eq_false_of_ofMeaning meant).1
  · exact refused.later

theorem remarkedOn_quiet (l : ScriptLine) (g : Game) : Quiet g (g.remarkedOn l) := by
  unfold remarkedOn
  split
  · exact report_quiet rfl g
  · exact Quiet.refl g

theorem takeLine_quiet (l : ScriptLine) (g : Game) : Quiet g (g.takeLine l).value.left ∧
    ∀ f, (g.takeLine l).value.fault = some f → (Remark.fault f).ofReading = false := by
  have remarked := remarkedOn_quiet l g
  rw [takeLine_value]
  split
  · refine ⟨remarked.trans ((passOver_quiet _ _).trans (report_quiet rfl _)), ?_⟩
    intro f same
    cases same
  · obtain ⟨quiet, later⟩ := carryOut_quiet l (g.remarkedOn l)
    exact ⟨remarked.trans quiet, later⟩

end Quiet

/-! ## One line -/

/-- Where nothing comes of a line, the remarks of its reading go on record. -/
theorem loadLine_of_unread {pass : Pass} {line : Nat × List Char} {g : Game}
    (unread : ∀ l, (ScriptLine.read g.progress.levelVersion pass line.2 g.dice).outcome ≠ .ok (some l)) :
    let r := ScriptLine.read g.progress.levelVersion pass line.2 g.dice
    (loadLine pass line g).value =
      noted r.remarks { g with dice := r.dice, progress := g.progress.atLine line.1 } := by
  intro r
  have scanned : (scanLine pass line.2 { g with progress := g.progress.atLine line.1 }).value =
      afterReading (noted (r.asides.filterMap Aside.remark?)
        { g with dice := r.dice, progress := g.progress.atLine line.1 }) r.outcome :=
    scanLine_value _ _ _
  rw [loadLine_value, scanned, DicedReading.remarks]
  cases outcome : r.outcome with
  | error f => exact noted_noted _ [.fault f] _
  | ok o =>
    cases o with
    | none =>
      rw [List.append_nil]
      rfl
    | some l => exact absurd outcome (unread l)

/-- A line rolls the dice and has its words remarked on as it is read, and no more. -/
theorem loadLine_reads (pass : Pass) (line : Nat × List Char) (g : Game) :
    let r := ScriptLine.read g.progress.levelVersion pass line.2 g.dice
    (loadLine pass line g).value.dice = r.dice ∧
      (loadLine pass line g).value.record = g.record ++ r.remarks.map (⟨line.1, ·⟩) := by
  intro r
  let start : Game := { g with dice := r.dice, progress := g.progress.atLine line.1 }
  have noted : (start.noted r.remarks).record = g.record ++ r.remarks.map (⟨line.1, ·⟩) := by
    have all : r.remarks.filter Remark.ofReading = r.remarks :=
      List.filter_eq_self.2 (ofReading_remarks _ _ _ _)
    exact (said_noted Remark.ofReading _ start).trans (by rw [all]; rfl)
  by_cases taken : ∃ l, r.outcome = .ok (some l)
  · obtain ⟨l, outcome⟩ := taken
    -- whatever becomes of the line, nothing is remarked on about its words from here on
    let h := start.noted (r.asides.filterMap Aside.remark?)
    have all : h = start.noted r.remarks := by
      rw [DicedReading.remarks, outcome, List.append_nil]
    have scanned : (scanLine pass line.2 { g with progress := g.progress.atLine line.1 }).value =
        (h.takeLine l).value := by
      rw [scanLine_value]
      show afterReading h r.outcome = _
      rw [outcome]
      rfl
    obtain ⟨quiet, later⟩ := takeLine_quiet l h
    have end_ : Quiet h (loadLine pass line g).value := by
      rw [loadLine_value, scanned]
      split
      · rename_i f failed
        exact quiet.trans (report_quiet (later f failed) _)
      · exact quiet
    rw [← noted, ← all]
    exact ⟨end_.dice, end_.record⟩
  · rw [loadLine_of_unread fun l outcome => taken ⟨l, outcome⟩]
    exact ⟨rfl, noted⟩

/-! ## The preload pass -/

/-- Over lines that are not its own, the preload pass reads the first words. -/
theorem loadLines_foreign {lines : List (Nat × List Char)} (foreign : ∀ line ∈ lines, Foreign line.2)
    {g : Game} (idle : g.progress.reusableLines = 0) :
    let end_ := (loadLines .preload lines g).value
    let first := readThrough firstWord lines g.dice
    { end_ with progress := end_.progress.outside } = { g with
      dice := first.2
      progress := { g.progress.outside with
        diagnostics := g.progress.diagnostics ++ first.1 } } := by
  induction lines generalizing g with
  | nil => simp [loadLines, readThrough, Progress.outside]
  | cons line rest ih =>
    obtain ⟨reads, unread⟩ := read_of_foreign (foreign line List.mem_cons_self)
      g.progress.levelVersion g.dice
    have here : (loadLine .preload line g).value = noted (firstWord line.2 g.dice).1 { g with
        dice := (firstWord line.2 g.dice).2
        progress := g.progress.atLine line.1 } := by
      rw [← reads]
      exact loadLine_of_unread unread
    have idle' : (loadLine .preload line g).value.progress.reusableLines = 0 := by
      rw [here]
      show g.progress.reusableLines - 1 = 0
      rw [idle]
    refine (ih (fun l hl => foreign l (List.mem_cons_of_mem _ hl)) idle').trans ?_
    rw [here]
    simp only [noted, readThrough, Progress.outside, Progress.atLine, idle, List.append_assoc]

/-! ## The full pass -/

/-- At a level version that is the default, the full pass reads whole lines. -/
theorem loadLines_reads (lines : List (Nat × List Char)) {g : Game}
    (version : g.progress.levelVersion = defaultLevelVersion) :
    let end_ := (loadLines .full lines g).value
    let full := readThrough wholeLine lines g.dice
    end_.dice = full.2 ∧ end_.record = g.record ++ full.1 := by
  induction lines generalizing g with
  | nil => exact ⟨rfl, (List.append_nil _).symm⟩
  | cons line rest ih =>
    obtain ⟨dice, record⟩ := loadLine_reads .full line g
    obtain ⟨diceLater, recordLater⟩ := ih ((loadLine_levelVersion line g).trans version)
    rw [version] at dice record
    rw [dice] at diceLater recordLater
    rw [record, List.append_assoc] at recordLater
    exact ⟨diceLater, recordLater⟩

theorem sumUp_quiet (g : Game) : Quiet g g.sumUp.value := by
  have reportIf : ∀ (c : Bool) (r : Remark) (g : Game), r.ofReading = false →
      Quiet g (g.reportIf c r).value := by
    intro c r g later
    cases c with
    | true => exact report_quiet later g
    | false => exact Quiet.refl g
  exact ((reportIf _ _ _ rfl).trans (reportIf _ _ _ rfl)).trans (report_quiet rfl _)

/-- **The preload pass reads first words.** Of a text without lines of its own, the preload
    pass reads the first word of each line: it rolls what there is to roll there and puts on
    record what cannot be read, drops the quick texts and the record of an earlier script, and
    leaves all else alone. The full pass then reads each line once, from its start. So what is
    on record about words after a level load is what there is to say of the first words and,
    once more, of each line; and no `RANDOM` is rolled more than once by either pass. If every
    line starts with a word that can be read and is not `RANDOM`, the preload pass has nothing
    to say and nothing to roll. -/
theorem preload_reads_first_words (text : String) (g : Game)
    (foreign : ∀ line ∈ scriptLines text, Foreign line.2) :
    let lines := scriptLines text
    let first := readThrough firstWord lines g.dice
    let full := readThrough wholeLine lines first.2
    let loaded := (g.loadLevel text).value
    (g.preload text).value = { g with
      script := g.script.clearQuickTexts
      dice := first.2
      progress := { Progress.start with diagnostics := first.1 } } ∧
    loaded.record = first.1 ++ full.1 ∧ loaded.dice = full.2 ∧
    Dice.Within (lines.map fun line => if (Cursor.ofLine line.2).rolls then 1 else 0).sum
      g.dice first.2 ∧
    Dice.Within (lines.map fun line => (Cursor.ofLine line.2).randoms).sum first.2 full.2 ∧
    ((∀ line ∈ lines, SoundStart line.2) → first = ([], g.dice)) := by
  intro lines first full loaded
  have preloaded : (g.preload text).value = { g with
      script := g.script.clearQuickTexts
      dice := first.2
      progress := { Progress.start with diagnostics := first.1 } } :=
    loadLines_foreign foreign (g := { g with
      progress := .start
      script := g.script.clearQuickTexts }) rfl
  obtain ⟨dice, record⟩ := loadLines_reads lines (g := (g.preload text).value.cleared)
    (congrArg (·.progress.levelVersion) preloaded)
  rw [preloaded] at dice record
  have start : (cleared { g with
      script := g.script.clearQuickTexts
      dice := first.2
      progress := { Progress.start with diagnostics := first.1 } }).record = first.1 :=
    readThrough_ofReading ofReading_firstWord lines g.dice
  rw [start] at record
  have outside : ∀ h : Game, Quiet h { h with progress := h.progress.outside } :=
    fun _ => ⟨rfl, rfl⟩
  have quiet : Quiet (loadLines .full lines (g.preload text).value.cleared).value loaded :=
    (outside _).trans (sumUp_quiet _)
  rw [preloaded] at quiet
  refine ⟨preloaded, quiet.record.trans record, quiet.dice.trans dice, ?_, ?_, ?_⟩
  · exact readThrough_within firstWord_within lines g.dice
  · exact readThrough_within wholeLine_within lines first.2
  · exact fun sound => readThrough_of_sound sound g.dice

/-- A line that starts with a lone minus sign. -/
theorem first_word_on_record_twice :
    let loaded := (loadLevel "-\n" default).value
    let fault : Diagnostic := ⟨1, .fault (.scan .danglingMinus)⟩
    loaded.record = [fault, fault] := by
  intro loaded fault
  have foreign : ∀ line ∈ scriptLines "-\n", Foreign line.2 := by decide +kernel
  obtain ⟨_, record, _⟩ := preload_reads_first_words "-\n" default foreign
  rw [show loaded.record = _ from record]
  decide +kernel

end Game

end DungeonScript
