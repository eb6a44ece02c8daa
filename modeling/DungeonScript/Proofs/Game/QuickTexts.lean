import DungeonScript.Proofs.Command
import DungeonScript.Proofs.Game.Reachable

/-!
Quick texts. A quick message sets its text as soon as the line is read and its number is
found to be one of a quick text, before its place is looked up and before what it shows is
stored. So the text under a number is that of the last line for the number that got so far
(`last_message_sets_quickText`), and a line that is refused after that has set its text all
the same (`refused_message_sets_quickText`). Where no message is refused so late, the texts
are those of the last lines that were accepted.

`textSet?` tells what a single line sets; `scanLine_quickTexts` says that this is all that a
line does to the texts, and `LineEnd.afterText` which faults a line can end with that has set
one: a place there is not, or no room for another effect.
-/

namespace DungeonScript

/-- A fault that is found only after a quick message has set its text. -/
def Fault.afterText : Fault → Bool
  | .noActionPoint _ | .noHeroGate _ | .full .effects => true
  | _ => false

namespace Script

/-- Of several texts, each one set takes the place of the one before it. -/
theorem getElem_setQuickText (s : Script) (index : Nat) (text : String) (i : Fin quickTextCount) :
    (s.setQuickText index text).quickTexts[i] =
      if index = i.val then cutQuickText text else s.quickTexts[i] := by
  unfold setQuickText
  split
  · rename_i inside
    exact Vector.getElem_set inside i.isLt
  · rename_i outside
    have other : index ≠ i.val := fun same => outside (same ▸ i.isLt)
    rw [if_neg other]

theorem cutQuickText_empty : cutQuickText "" = "" := by decide

end Script

namespace Game

/-! ## One line -/

/-- The quick text a line sets, with its number: that of a quick message which is read
    outside of blocks whose contents are dropped. -/
def textSet? (pass : Pass) (text : List Char) (g : Game) : Option (Nat × String) :=
  match g.lineRead pass text with
  | .ok (some l) => if g.progress.drops then none else l.quickText?
  | _ => none

theorem quickText?_of_endif {l : ScriptLine} (h : l.verb = .endif) : l.quickText? = none := by
  simp [ScriptLine.quickText?, h, Verb.setsText]

theorem textSet?_of_taken {pass : Pass} {text : List Char} {g : Game} {l : ScriptLine}
    (read : g.lineRead pass text = .ok (some l))
    (taken : g.progress.drops = true → l.verb = .endif) : g.textSet? pass text = l.quickText? := by
  rw [textSet?, read]
  show (if g.progress.drops = true then none else l.quickText?) = l.quickText?
  split
  · rename_i drops
    rw [quickText?_of_endif (taken drops)]
  · rfl

theorem Registered.quickTexts {c : Command} {g g' : Game} (done : Registered g c g') :
    g'.script.quickTexts = g.script.quickTexts := by
  cases done <;> rfl

theorem hear_lineMeaning {g h : Game} (told : Told g h) (l : ScriptLine) :
    (hear (g.lineMeaning l).asides h).value.script =
      g.script.setQuickTexts l.quickText?.toList := by
  have texts : (g.lineMeaning l).asides.filterMap Aside.text? = l.quickText?.toList :=
    Command.resolve_texts g.world g.script l
  rw [hear_script, told.script, texts]

theorem LineEnd.quickTexts {pass : Pass} {text : List Char} {g g' : Game} {f : Option Fault}
    (h : LineEnd pass text g g' f) : g'.script.quickTexts =
      (g.script.setQuickTexts (g.textSet? pass text).toList).quickTexts := by
  cases h with
  | unread read told =>
    rw [told.script, textSet?, read]
    rfl
  | skipped read told =>
    rw [told.script, textSet?, read]
    rfl
  | dropped read drops _ told =>
    rw [told.script, passOver_script, textSet?, read]
    simp only [drops, if_true]
    rfl
  | senseless read taken told _ =>
    rw [textSet?_of_taken read taken, passOver_script, hear_lineMeaning told]
  | refused read taken told _ _ =>
    rw [textSet?_of_taken read taken, passOver_script, hear_lineMeaning told]
  | done read taken told _ registered =>
    rw [textSet?_of_taken read taken, (register_registered registered).quickTexts,
      hear_lineMeaning told]

/-- A line sets its text, whatever fault it ends with, and no other. -/
theorem scanLine_quickTexts (pass : Pass) (text : List Char) (g : Game) :
    (scanLine pass text g).value.left.script.quickTexts =
      (g.script.setQuickTexts (g.textSet? pass text).toList).quickTexts :=
  (scanLine_ends pass text g).quickTexts

theorem effect_refused {g : Game} {e : Effect} {f : Fault}
    (refused : (g.register (.effect e)).value.fault = some f) : f = .full .effects := by
  simp only [register] at refused
  split at refused
  · exact fault_of_shelve refused
  · cases refused

/-- The faults a line can end with that has set a text. -/
theorem LineEnd.afterText {pass : Pass} {text : List Char} {g g' : Game} {f : Fault}
    (h : LineEnd pass text g g' (some f)) {t : Nat × String}
    (set : g.textSet? pass text = some t) : f.afterText = true := by
  cases h with
  | unread read told =>
    rw [textSet?, read] at set
    cases set
  | @senseless l _ h read taken told meaning =>
    rw [textSet?_of_taken read taken] at set
    rcases (Command.resolve_of_quickText? g.world g.script l set).1 f meaning with
      ⟨n, rfl⟩ | ⟨n, rfl⟩
    · rfl
    · rfl
  | @refused l _ h c read taken told meaning registered =>
    rw [textSet?_of_taken read taken] at set
    obtain ⟨e, rfl⟩ := (Command.resolve_of_quickText? g.world g.script l set).2 c meaning
    rw [effect_refused registered]
    rfl

def textUnder? (pass : Pass) (text : List Char) (g : Game) (i : Fin quickTextCount) :
    Option String :=
  match g.textSet? pass text with
  | some (index, t) => if index = i.val then some t else none
  | none => none

/-- After a line, the text under a number is the one the line set there, or the one there
    was. -/
theorem loadLine_quickText (pass : Pass) (line : Nat × List Char) (g : Game)
    (i : Fin quickTextCount) : (loadLine pass line g).value.script.quickTexts[i] =
      match g.textUnder? pass line.2 i with
      | some t => Script.cutQuickText t
      | none => g.script.quickTexts[i] := by
  -- what a line sets does not depend on where it stands
  have same : Game.textSet? pass line.2 { g with progress := g.progress.atLine line.1 } =
      g.textSet? pass line.2 := rfl
  rw [loadLine_script, scanLine_quickTexts, same, textUnder?]
  cases g.textSet? pass line.2 with
  | none => rfl
  | some t =>
    obtain ⟨index, t⟩ := t
    show (g.script.setQuickText index t).quickTexts[i] = _
    rw [Script.getElem_setQuickText]
    by_cases here : index = i.val
    · simp only [here, if_true]
    · simp only [here, if_false]

/-! ## The preload pass -/

theorem textSet?_preload (text : List Char) (g : Game) : g.textSet? .preload text = none := by
  unfold textSet?
  split
  · rename_i l read
    have taken : l.verb.isPreloaded = true := (ScriptLine.leading?_of_read read).2.2
    have silent : l.verb.setsText = false := by
      revert taken
      cases l.verb <;> simp [Verb.isPreloaded, Verb.setsText]
    simp [ScriptLine.quickText?, silent]
  · rfl

theorem loadLines_preload_quickTexts (lines : List (Nat × List Char)) (g : Game) :
    (loadLines .preload lines g).value.script.quickTexts = g.script.quickTexts := by
  refine loadLines_keeps (P := fun h => h.script.quickTexts = g.script.quickTexts) ?_ lines rfl
  intro line h same
  rw [loadLine_script, scanLine_quickTexts, textSet?_preload]
  exact same

theorem preload_quickText (text : String) (g : Game) (i : Fin quickTextCount) :
    (g.preload text).value.script.quickTexts[i] = "" := by
  have texts : (g.preload text).value.script.quickTexts = g.script.clearQuickTexts.quickTexts :=
    loadLines_preload_quickTexts _ _
  rw [texts]
  exact Vector.getElem_replicate _

/-! ## A whole text -/

/-- The last of the first `n` texts there are. -/
def lastOf (texts : Nat → Option String) : Nat → Option String
  | 0 => none
  | n + 1 => (texts n).or (lastOf texts n)

/-- The text that line `n` of the full pass sets under a number. -/
def textAt? (text : String) (g : Game) (i : Fin quickTextCount) (n : Nat) : Option String :=
  (scriptLines text)[n]?.bind fun line => (g.atPoint text n).textUnder? .full line.2 i

/-- The fault that line `n` of the full pass ends with. -/
def faultAt? (text : String) (g : Game) (n : Nat) : Option Fault :=
  (scriptLines text)[n]?.bind fun line =>
    (scanLine .full line.2 { g.atPoint text n with
      progress := (g.atPoint text n).progress.atLine line.1 }).value.2

/-- The text that line `n` sets under a number, if the line is accepted. -/
def acceptedAt? (text : String) (g : Game) (i : Fin quickTextCount) (n : Nat) : Option String :=
  if g.faultAt? text n = none then g.textAt? text i n else none

/-- At every point of the full pass the text under a number is the last one set there. -/
theorem atPoint_quickText (text : String) (g : Game) (i : Fin quickTextCount) (n : Nat) :
    (g.atPoint text n).script.quickTexts[i] =
      match lastOf (g.textAt? text i) n with
      | some t => Script.cutQuickText t
      | none => g.script.quickTexts[i] := by
  induction n with
  | zero => rfl
  | succ n ih =>
    rcases atPoint_succ text n g with ⟨line, here, next⟩ | ⟨ended, next⟩
    · have set : g.textAt? text i n = (g.atPoint text n).textUnder? .full line.2 i := by
        rw [textAt?, here]
        rfl
      rw [next, loadLine_quickText, lastOf, set]
      cases (g.atPoint text n).textUnder? .full line.2 i with
      | some t => rfl
      | none => exact ih
    · have none : g.textAt? text i n = none := by
        rw [textAt?, List.getElem?_eq_none ended]
        rfl
      rw [next, lastOf, none]
      exact ih

/-- Number `n` is the last of the first `count` texts there are. -/
structure IsLast (texts : Nat → Option String) (count n : Nat) : Prop where
  below : n < count
  isSome : (texts n).isSome
  last : ∀ m, n < m → m < count → texts m = none

theorem lastOf_of_isLast {texts kept : Nat → Option String} {count : Nat}
    (only : ∀ n, texts n = none → kept n = none)
    (h : ∀ n, IsLast texts count n → kept n = texts n) : lastOf kept count = lastOf texts count := by
  induction count with
  | zero => rfl
  | succ count ih =>
    rw [lastOf, lastOf]
    cases here : texts count with
    | some t =>
      have isLast : IsLast texts (count + 1) count :=
        ⟨Nat.lt_succ_self count, by rw [here]; rfl, fun m above below => by omega⟩
      rw [h count isLast, here]
      rfl
    | none =>
      rw [only count here]
      refine ih fun n isLast => h n ⟨Nat.lt_succ_of_lt isLast.below, isLast.isSome, ?_⟩
      intro m above below
      rcases Nat.lt_succ_iff_lt_or_eq.1 below with below | rfl
      · exact isLast.last m above below
      · exact here

theorem loadLevel_quickText (text : String) (g : Game) (i : Fin quickTextCount) :
    (g.loadLevel text).value.script.quickTexts[i] = Script.cutQuickText
      ((lastOf ((g.preload text).value.textAt? text i) (scriptLines text).length).getD "") := by
  have whole : (g.loadLevel text).value.script =
      ((g.preload text).value.atPoint text (scriptLines text).length).script := by
    rw [atPoint, List.take_length]
    exact load_script text _
  rw [whole, atPoint_quickText, preload_quickText]
  cases lastOf ((g.preload text).value.textAt? text i) (scriptLines text).length with
  | some t => rfl
  | none => exact Script.cutQuickText_empty.symm

/-- A line that ends in a fault leaves the quick texts alone, unless the fault is one that
    is found only after a quick message has set its text. -/
theorem atPoint_quickTexts_of_fault {text : String} {g : Game} {n : Nat} {f : Fault}
    (fault : g.faultAt? text n = some f) (early : f.afterText = false) :
    (g.atPoint text (n + 1)).script.quickTexts = (g.atPoint text n).script.quickTexts := by
  rcases atPoint_succ text n g with ⟨line, here, next⟩ | ⟨ended, _⟩
  · rw [faultAt?, here] at fault
    have ends := scanLine_ends .full line.2 { g.atPoint text n with
      progress := (g.atPoint text n).progress.atLine line.1 }
    rw [show (scanLine _ _ _).value.fault = some f from fault] at ends
    rw [next, loadLine_script, ends.quickTexts]
    cases set : textSet? .full line.2 { g.atPoint text n with
        progress := (g.atPoint text n).progress.atLine line.1 } with
    | none => rfl
    | some t =>
      rw [ends.afterText set] at early
      cases early
  · rw [faultAt?, List.getElem?_eq_none ended] at fault
    cases fault

/-- **The last message sets the text.** After a level is loaded, the text under a number is
    that of the last line which set one there, cut to its length, and empty if none did. If
    that line was accepted, it is the last quick message for the number that was; but it may
    have been refused after it had set its text. Of the lines that are refused, only those can
    change a quick text which name a place there is not or find no room for their effect. -/
theorem last_message_sets_quickText (text : String) (g : Game) (i : Fin quickTextCount) :
    let start := (g.preload text).value
    let count := (scriptLines text).length
    let stored := (g.loadLevel text).value.script.quickTexts[i]
    stored = Script.cutQuickText ((lastOf (start.textAt? text i) count).getD "") ∧
    ((∀ n, IsLast (start.textAt? text i) count n → start.faultAt? text n = none) →
      stored = Script.cutQuickText ((lastOf (start.acceptedAt? text i) count).getD "")) ∧
    ∀ n f, start.faultAt? text n = some f → f.afterText = false →
      (start.atPoint text (n + 1)).script.quickTexts =
        (start.atPoint text n).script.quickTexts := by
  intro start count stored
  have last : stored = Script.cutQuickText ((lastOf (start.textAt? text i) count).getD "") :=
    loadLevel_quickText text g i
  refine ⟨last, fun accepted => ?_, fun n f fault early => atPoint_quickTexts_of_fault fault early⟩
  have only : ∀ n, start.textAt? text i n = none → start.acceptedAt? text i n = none := by
    intro n none
    rw [acceptedAt?, none, ite_self]
  have same : ∀ n, IsLast (start.textAt? text i) count n →
      start.acceptedAt? text i n = start.textAt? text i n := by
    intro n isLast
    rw [acceptedAt?, if_pos (accepted n isLast)]
  rw [lastOf_of_isLast only same]
  exact last

/-- The second message names an action point there is not. It is refused, and its text takes
    the place of that of the first, which was accepted. -/
theorem refused_message_sets_quickText :
    let text := "QUICK_OBJECTIVE(3,\"Kill the Avatar\",PLAYER0)\nQUICK_OBJECTIVE(3,\"Go away\",9)\n"
    let start := (preload text default).value
    let stored := (loadLevel text default).value.script.quickTexts[3]
    start.faultAt? text 1 = some (.noActionPoint 9) ∧ stored = "Go away" ∧
      stored ≠ Script.cutQuickText
        ((lastOf (start.acceptedAt? text 3) (scriptLines text).length).getD "") := by
  intro text start stored
  have last := (last_message_sets_quickText text default 3).1
  have sets : lastOf (start.textAt? text 3) (scriptLines text).length = some "Go away" := by
    decide +kernel
  have accepted : lastOf (start.acceptedAt? text 3) (scriptLines text).length =
      some "Kill the Avatar" := by decide +kernel
  have away : stored = "Go away" := by
    rw [show stored = _ from last, sets]
    decide
  refine ⟨by decide +kernel, away, ?_⟩
  rw [away, accepted]
  decide

end Game

end DungeonScript
