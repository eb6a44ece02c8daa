import DungeonScript.Proofs.Game.Announcing

/-!
The level version. The preload pass looks for the lines that name one while it is itself looking
keywords up; but the keywords it takes are the same in both grammars, so it reads a line alike
whatever version is in force (`read_preload`). It opens no block, so it drops nothing either. What
it leaves is therefore the number on the last line that names a version and is accepted
(`inPreload_levelVersion`), and where that line stands does not matter.

The full pass takes no such line and keeps the version it starts with. So all its lines are looked
up in one grammar (`one_grammar_throughout`).
-/

namespace DungeonScript

namespace ScriptLine

/-! ## Reading under either grammar -/

theorem find?_of_preloaded (v v' : Int) : ∀ u ∈ Grammar.ofVersion v, u.verb.isPreloaded = true →
    Grammar.find? v' u.keyword = some u := by
  unfold Grammar.find? Grammar.ofVersion
  split <;> split <;> decide

theorem keyword?_of_preloaded {v : Int} {first : Word} {u : Usage}
    (found : keyword? v first = some u) (preloaded : u.verb.isPreloaded = true) (v' : Int) :
    keyword? v' first = some u := by
  unfold keyword? at found ⊢
  split at found
  · have spelled : u.keyword = first.text := by simpa using List.find?_some found
    rw [← spelled]
    exact find?_of_preloaded v v' u (List.mem_of_find?_eq_some found) preloaded
  · cases found

theorem read_preload (v v' : Int) (text : List Char) (dice : Dice) :
    read v .preload text dice = read v' .preload text dice := by
  cases word : ((Cursor.ofLine text).next dice).word with
  | error f => simp only [read, word]
  | ok o =>
    cases o with
    | none => simp only [read, word]
    | some first =>
      by_cases own : ∃ u, keyword? v first = some u ∧ u.verb.isPreloaded = true
      · obtain ⟨u, found, preloaded⟩ := own
        simp only [read, word, found, keyword?_of_preloaded found preloaded v']
      · -- what is not preloaded in one grammar is not preloaded in the other
        have foreign : ∀ w u, keyword? w first = some u → u.verb.isPreloaded = false := by
          intro w u found
          refine eq_false_of_ne_true fun preloaded => own ⟨u, ?_, preloaded⟩
          exact keyword?_of_preloaded found preloaded v
        rw [read_of_not_preloaded word (foreign v), read_of_not_preloaded word (foreign v')]

end ScriptLine

namespace Game

/-! ## A line of the preload pass -/

/-- The level version that a line names: the number of a `LEVEL_VERSION` without a fault. -/
def namedVersion? (read : Except Fault (Option ScriptLine)) (fault : Option Fault) : Option Int :=
  match read, fault with
  | .ok (some l), none => if l.verb = .levelVersion then some (l.number 0) else none
  | _, _ => none

/-- The level version that the line being read names, if the preload pass accepts the line. -/
def acceptedVersion? (text : List Char) (g : Game) : Option Int :=
  namedVersion? (g.lineRead .preload text) (scanLine .preload text g).value.fault

theorem namedVersion?_of_fault (read : Except Fault (Option ScriptLine)) (f : Fault) :
    namedVersion? read (some f) = none := by
  cases read with
  | error e => rfl
  | ok o => cases o <;> rfl

theorem passOver_of_preloaded {v : Verb} (preloaded : v.isPreloaded = true) (g : Game) :
    g.passOver v = g := by
  have closed : v.opensCondition = false := by
    revert preloaded
    cases v <;> simp [Verb.isPreloaded, Verb.opensCondition]
  simp [passOver, closed]

theorem lineMeaning_of_levelVersion {g : Game} {l : ScriptLine} (verb : l.verb = .levelVersion) :
    g.lineMeaning l = pure (.levelVersion (l.number 0)) := by
  simp only [lineMeaning, Command.resolve, verb]

theorem LineEnd.blocks_of_preload {text : List Char} {g g' : Game} {f : Option Fault}
    (h : LineEnd .preload text g g' f) : g'.progress.blocks = g.progress.blocks := by
  have preloaded : ∀ {l}, g.lineRead .preload text = .ok (some l) → l.verb.isPreloaded = true :=
    fun read => (ScriptLine.leading?_of_read read).2.2
  cases h with
  | unread _ told => exact told.heard.blocks
  | skipped _ told => exact told.heard.blocks
  | dropped read _ _ told =>
    rw [passOver_of_preloaded (preloaded read)] at told
    exact told.heard.blocks
  | senseless read _ told _ =>
    rw [passOver_of_preloaded (preloaded read)]
    exact (told.heard.trans (hear_heard _ _)).blocks
  | refused read _ told _ _ =>
    rw [passOver_of_preloaded (preloaded read)]
    exact (told.heard.trans (hear_heard _ _)).blocks
  | @done l _ _ c read taken told meaning registered =>
    have heard := told.heard.trans (hear_heard (g.lineMeaning l).asides _)
    -- the command has the part of its verb, which neither opens nor closes
    have part : c.part = .neither := by
      rw [Command.resolve_part g.world g.script l c meaning]
      have own := preloaded read
      revert own
      cases l.verb <;> simp [Verb.isPreloaded, Part.ofVerb, Verb.opensCondition]
    have moves : c.part.Moves True _ g'.progress :=
      (register_registered registered).moves trivial fun drops =>
        command_of_endif (taken (heard.drops ▸ drops)) meaning
    rw [part] at moves
    exact Eq.trans moves heard.blocks

/-- Outside of any block, a line leaves the level version it names, or the one there was. -/
theorem LineEnd.levelVersion_of_preload {text : List Char} {g g' : Game} {f : Option Fault}
    (h : LineEnd .preload text g g' f) (outside : g.progress.blocks = []) :
    g'.progress.levelVersion =
      (namedVersion? (g.lineRead .preload text) f).getD g.progress.levelVersion := by
  cases f with
  | some f =>
    rw [namedVersion?_of_fault]
    exact h.spared.1.levelVersion
  | none =>
    cases h with
    | skipped read told =>
      rw [read]
      exact told.heard.levelVersion
    | dropped _ drops =>
      -- outside of any block nothing is dropped
      simp [Progress.drops, outside] at drops
    | @done l _ _ c read _ told meaning registered =>
      have heard := told.heard.trans (hear_heard (g.lineMeaning l).asides _)
      have done := register_registered registered
      rw [read, ← heard.levelVersion]
      by_cases verb : l.verb = .levelVersion
      · rw [lineMeaning_of_levelVersion verb] at meaning
        obtain rfl := Except.ok.inj meaning
        cases done
        simp [namedVersion?, verb]
      · have other : ∀ version, c ≠ .levelVersion version := by
          intro version same
          exact verb (Command.resolve_levelVersion g.world g.script l c meaning version same)
        rw [done.levelVersion other]
        simp [namedVersion?, verb]

/-- A `LEVEL_VERSION` that can be read is accepted. -/
theorem LineEnd.of_levelVersion {text : List Char} {g g' : Game} {f : Option Fault} {l : ScriptLine}
    (h : LineEnd .preload text g g' f) (outside : g.progress.blocks = [])
    (read : g.lineRead .preload text = .ok (some l)) (verb : l.verb = .levelVersion) : f = none := by
  have taken : g.progress.drops = false := by rw [Progress.drops, outside]
  have meaning : (g.lineMeaning l).outcome = .ok (.levelVersion (l.number 0)) := by
    rw [lineMeaning_of_levelVersion verb]
    rfl
  obtain ⟨k, _, refused | done⟩ := h.of_meaning taken read meaning
  · obtain ⟨e, _, refused, _⟩ := refused
    cases refused
  · exact done.1

/-- What a line names, and whether it is accepted, is a matter of its words alone. -/
theorem acceptedVersion?_eq (text : List Char) {g : Game} (outside : g.progress.blocks = [])
    (v : Int) : g.acceptedVersion? text =
      namedVersion? (ScriptLine.read v .preload text g.dice).outcome none := by
  have alike : g.lineRead .preload text = (ScriptLine.read v .preload text g.dice).outcome := by
    rw [lineRead, ScriptLine.read_preload g.progress.levelVersion v]
  have ends := scanLine_ends .preload text g
  rw [acceptedVersion?, ← alike]
  cases fault : (scanLine .preload text g).value.fault with
  | none => rfl
  | some f =>
    rw [fault] at ends
    rw [namedVersion?_of_fault]
    cases read : g.lineRead .preload text with
    | error e => rfl
    | ok o =>
      cases o with
      | none => rfl
      | some l =>
        have other : l.verb ≠ .levelVersion :=
          fun verb => nomatch ends.of_levelVersion outside read verb
        simp [namedVersion?, other]

theorem loadLine_preload (line : Nat × List Char) {g : Game} (outside : g.progress.blocks = []) :
    let g' := (loadLine .preload line g).value
    g'.progress.blocks = [] ∧ g'.progress.levelVersion =
      (acceptedVersion? line.2 { g with progress := g.progress.atLine line.1 }).getD
        g.progress.levelVersion := by
  intro g'
  have ends := scanLine_ends .preload line.2 { g with progress := g.progress.atLine line.1 }
  have heard := loadLine_heard .preload line g
  constructor
  · exact heard.blocks.trans (ends.blocks_of_preload.trans outside)
  · exact heard.levelVersion.trans (ends.levelVersion_of_preload outside)

/-! ## Points of the preload pass -/

/-- The game after the first `n` lines of the preload pass over a text. -/
def inPreload (text : String) (n : Nat) (g : Game) : Game :=
  (loadLines .preload ((scriptLines text).take n)
    { g with progress := .start, script := g.script.clearQuickTexts }).value

/-- The game as line `n` of the preload pass is looked at. -/
def onPreloadLine (text : String) (g : Game) (n : Nat) (line : Nat × List Char) : Game :=
  { g.inPreload text n with progress := (g.inPreload text n).progress.atLine line.1 }

/-- The level version named by line `n`, if the preload pass accepts the line. -/
def versionAt? (text : String) (g : Game) (n : Nat) : Option Int :=
  (scriptLines text)[n]?.bind fun line => (g.onPreloadLine text n line).acceptedVersion? line.2

/-- The level versions named by the first `n` lines, in order. -/
def versionsNamed (text : String) (g : Game) (n : Nat) : List Int :=
  (List.range n).filterMap (g.versionAt? text)

theorem lastNamed_succ (text : String) (g : Game) (n : Nat) (v : Int) :
    (g.versionsNamed text (n + 1)).getLast?.getD v =
      (g.versionAt? text n).getD ((g.versionsNamed text n).getLast?.getD v) := by
  unfold versionsNamed
  rw [List.range_succ, List.filterMap_append, List.getLast?_append]
  cases here : g.versionAt? text n <;> simp [here]

/-- From one point to the next there is one line, or the text has ended. -/
theorem inPreload_succ (text : String) (n : Nat) (g : Game) :
    (∃ line, (scriptLines text)[n]? = some line ∧
      g.inPreload text (n + 1) = (loadLine .preload line (g.inPreload text n)).value) ∨
    (scriptLines text).length ≤ n ∧ g.inPreload text (n + 1) = g.inPreload text n :=
  loadLines_take_succ .preload (scriptLines text) n _

theorem inPreload_outside (text : String) (g : Game) (n : Nat) :
    (g.inPreload text n).progress.blocks = [] := by
  induction n with
  | zero => rfl
  | succ n ih =>
    rcases inPreload_succ text n g with ⟨line, _, next⟩ | ⟨_, next⟩
    · rw [next]
      exact (loadLine_preload line ih).1
    · rw [next]
      exact ih

theorem versionAt?_eq {text : String} (g : Game) {n : Nat} {line : Nat × List Char}
    (here : (scriptLines text)[n]? = some line) :
    g.versionAt? text n = (g.onPreloadLine text n line).acceptedVersion? line.2 := by
  rw [versionAt?, here]
  rfl

/-- At every point of the preload pass the version in force is the last one named so far. -/
theorem inPreload_levelVersion (text : String) (g : Game) (n : Nat) :
    (g.inPreload text n).progress.levelVersion =
      (g.versionsNamed text n).getLast?.getD defaultLevelVersion := by
  induction n with
  | zero => rfl
  | succ n ih =>
    rw [lastNamed_succ, ← ih]
    rcases inPreload_succ text n g with ⟨line, here, next⟩ | ⟨ended, next⟩
    · rw [next, versionAt?_eq g here]
      exact (loadLine_preload line (g.inPreload_outside text n)).2
    · rw [next, versionAt?, List.getElem?_eq_none ended]
      rfl

theorem preload_levelVersion (text : String) (g : Game) :
    (g.preload text).value.progress.levelVersion =
      (g.versionsNamed text (scriptLines text).length).getLast?.getD defaultLevelVersion := by
  rw [← inPreload_levelVersion, inPreload, List.take_length]
  rfl

/-- What version a line names, if any, is a matter of its words alone, whatever version is in
    force as they are read. -/
theorem versionAt?_of_words {text : String} (g : Game) {n : Nat} {line : Nat × List Char}
    (here : (scriptLines text)[n]? = some line) (v : Int) :
    g.versionAt? text n = namedVersion?
      (ScriptLine.read v .preload line.2 (g.inPreload text n).dice).outcome none := by
  have outside : (g.onPreloadLine text n line).progress.blocks = [] := g.inPreload_outside text n
  rw [versionAt?_eq g here, acceptedVersion?_eq line.2 outside v]
  rfl

/-! ## The full pass -/

theorem atPoint_levelVersion (text : String) (g : Game) (n : Nat) :
    (g.atPoint text n).progress.levelVersion = g.progress.levelVersion :=
  loadLines_levelVersion _ g.cleared

theorem load_levelVersion (text : String) (g : Game) :
    (g.load text).value.progress.levelVersion = g.progress.levelVersion :=
  (sumUp_heard _).levelVersion.trans (loadLines_levelVersion _ g.cleared)

/-- The full pass skips the lines that name a version. -/
theorem lineRead_of_versionAt? {text : String} {g : Game} {n : Nat} {line : Nat × List Char}
    (here : (scriptLines text)[n]? = some line) (names : (g.versionAt? text n).isSome) (k : Game) :
    k.lineRead .full line.2 = .ok none := by
  rw [versionAt?_of_words g here k.progress.levelVersion] at names
  unfold namedVersion? at names
  split at names
  · rename_i l read _
    -- the same keyword stands in front for either pass, and belongs to the other one
    obtain ⟨leads, _, own⟩ := ScriptLine.leading?_of_read read
    refine ScriptLine.read_of_not_taken leads ?_ k.dice
    show (!l.verb.isPreloaded) = false
    rw [show l.verb.isPreloaded = true from own]
    rfl
  · cases names

/-- **One grammar for the whole level.** Of the versions named by the lines that the preload pass
    accepts, let `version` be the last, or the default if there is none. When a level is loaded,
    every line of the full pass is read at this version, and the version stands until the end.
    What version a line names depends neither on the version in force nor on where the line
    stands: it can be told from its words; and the full pass skips a line that names one. -/
theorem one_grammar_throughout (text : String) (g : Game) :
    let lines := scriptLines text
    let start := (g.preload text).value
    let version := (g.versionsNamed text lines.length).getLast?.getD defaultLevelVersion
    (∀ n line, lines[n]? = some line →
      let here := start.onLine text n line
      here.progress.levelVersion = version ∧
      here.lineRead .full line.2 = (ScriptLine.read version .full line.2 here.dice).outcome ∧
      ((g.versionAt? text n).isSome → here.lineRead .full line.2 = .ok none) ∧
      ∀ v, g.versionAt? text n = namedVersion?
        (ScriptLine.read v .preload line.2 (g.inPreload text n).dice).outcome none) ∧
    (∀ n, (start.atPoint text n).progress.levelVersion = version) ∧
    (g.loadLevel text).value.progress.levelVersion = version := by
  intro lines start version
  have named : start.progress.levelVersion = version := preload_levelVersion text g
  have throughout : ∀ n, (start.atPoint text n).progress.levelVersion = version :=
    fun n => (atPoint_levelVersion text start n).trans named
  refine ⟨fun n line there => ?_, throughout, (load_levelVersion text start).trans named⟩
  intro here
  have inForce : here.progress.levelVersion = version := throughout n
  refine ⟨inForce, ?_, fun names => ?_, versionAt?_of_words g there⟩
  · rw [lineRead, inForce]
  · exact lineRead_of_versionAt? there names here

/-- The version is named inside a block whose condition fails, below a line that only the extended
    grammar knows; that line is read by it all the same. -/
theorem one_grammar_throughout_of_late_version :
    let gold := "ADD_GOLD_TO_PLAYER(PLAYER0,5)".toList
    let text := "ADD_GOLD_TO_PLAYER(PLAYER0,5)\nLEVEL_VERSION(0)\nIF(PLAYER9,MONEY >= 1)\n" ++
      "LEVEL_VERSION(1)\nLEVEL_VERSION()\nENDIF\n"
    let here := (preload text default).value.onLine text 0 (1, gold)
    here.lineRead .full gold = (ScriptLine.read 1 .full gold here.dice).outcome ∧
      (loadLevel text default).value.progress.levelVersion = 1 ∧
      ScriptLine.Readable 1 gold ∧ ¬ScriptLine.Readable 0 gold := by
  intro gold text here
  have first : (scriptLines text)[0]? = some (1, gold) := by decide +kernel
  have versions : versionsNamed text default (scriptLines text).length = [0, 1] := by
    decide +kernel
  obtain ⟨lines, _, loaded⟩ := one_grammar_throughout text default
  rw [versions] at lines loaded
  exact ⟨(lines 0 (1, gold) first).2.1, loaded, by decide +kernel, by decide +kernel⟩

end Game

end DungeonScript
