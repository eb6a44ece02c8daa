import DungeonScript.Proofs.Game.Balance
import DungeonScript.Proofs.Game.Nesting

/-!
Dropping. While the innermost open block is one without a condition, a line of the full pass
is looked at only for its part in the nesting. Nothing it says reaches the store, quick texts
and parties included, nor the world, the level version or the announcement of a reusable
command. It makes no difference what command the line comes to, how deep dropped blocks are
nested in each other, or whether the line could have been read at all.

`loadLine_skims` says of one line what is left to it: the dice its words are rolled with, the
record, the open blocks, and that it is one line more. `SkimsLines` is the same for lines in a
row, and `dropped_lines_skimmed` the claim for any stretch of a text.
-/

namespace DungeonScript

namespace Game

/-- `g'` is `g` with other dice, more on record, other open blocks, and `count` lines read
    since: an announcement of a reusable command is that many lines older. -/
def SkimsLines (count : Nat) (g g' : Game) : Prop :=
  ∃ dice blocks line more, g' = { g with
    dice
    progress := { g.progress with
      blocks
      line
      reusableLines := g.progress.reusableLines - count
      diagnostics := g.progress.diagnostics ++ more } }

namespace SkimsLines

theorem zero (g : Game) : SkimsLines 0 g g :=
  ⟨g.dice, g.progress.blocks, g.progress.line, [], by rw [Nat.sub_zero, List.append_nil]⟩

theorem next {count : Nat} {g h : Game} (skims : SkimsLines count g h)
    (line : Nat × List Char) (drops : h.progress.drops = true) :
    SkimsLines (count + 1) g (loadLine .full line h).value := by
  obtain ⟨dice, blocks, more, same⟩ := loadLine_skims line h .full drops
  obtain ⟨_, _, _, before, rfl⟩ := skims
  refine ⟨dice, blocks, line.1, before ++ more, ?_⟩
  rw [same, ← List.append_assoc]
  simp only [Progress.atLine, Nat.sub_add_eq]

end SkimsLines

/-- What a dropped line does to the open blocks: one more that is dropped for an opener that
    can be read, one less for an `ENDIF`, and nothing otherwise. -/
structure SkimsBlocks (line : Nat × List Char) (p p' : Progress) : Prop where
  opens : ScriptLine.part p.levelVersion line.2 = .opens →
    ScriptLine.Readable p.levelVersion line.2 → p'.blocks = .unregistered :: p.blocks
  missed : ScriptLine.part p.levelVersion line.2 = .opens →
    ¬ScriptLine.Readable p.levelVersion line.2 → p'.blocks = p.blocks
  closes : ScriptLine.part p.levelVersion line.2 = .closes → p'.blocks = p.blocks.tail
  neither : ScriptLine.part p.levelVersion line.2 = .neither → p'.blocks = p.blocks

theorem loadLine_skimsBlocks (line : Nat × List Char) {g : Game} (drops : g.progress.drops = true) :
    SkimsBlocks line g.progress (loadLine .full line g).value.progress := by
  have moves := loadLine_moves line g
  constructor
  · intro opens readable
    rw [opens] at moves
    obtain ⟨b, dropped, opened⟩ := moves.1 readable
    rw [opened, dropped drops]
  · intro opens unreadable
    rw [opens] at moves
    exact moves.2 unreadable
  · intro closes
    rw [closes] at moves
    exact moves
  · intro neither
    rw [neither] at moves
    exact moves

/-- **What stands in a dropped block is without effect.** Take any stretch of lines of the full
    pass, each of which finds a block without a condition innermost. Over the whole stretch the
    store, the world, the level version and everything else about the game stay as they are,
    but for four things: the dice, the record, which only grows, the open blocks, and an
    announcement of a reusable command, which none of these lines makes and each makes a line
    older. The open blocks change by the nesting of the text alone, and what is opened is
    dropped as well. -/
theorem dropped_lines_skimmed (text : String) (g : Game) (start count : Nat)
    (inside : start + count ≤ (scriptLines text).length)
    (drops : ∀ i < count, (g.atPoint text (start + i)).progress.drops = true) :
    SkimsLines count (g.atPoint text start) (g.atPoint text (start + count)) ∧
    ∀ i < count, ∀ line, (scriptLines text)[start + i]? = some line →
      SkimsBlocks line (g.atPoint text (start + i)).progress
        (g.atPoint text (start + i + 1)).progress := by
  constructor
  · induction count with
    | zero => exact SkimsLines.zero _
    | succ count ih =>
      have before := ih (by omega) fun i hi => drops i (by omega)
      rcases atPoint_succ text (start + count) g with ⟨line, _, next⟩ | ⟨ended, _⟩
      · rw [← Nat.add_assoc, next]
        exact before.next line (drops count (by omega))
      · omega
  · intro i hi line here
    rcases atPoint_succ text (start + i) g with ⟨line', here', next⟩ | ⟨ended, _⟩
    · obtain rfl := Option.some.inj (here.symm.trans here')
      rw [next]
      exact loadLine_skimsBlocks line (drops i hi)
    · omega

/-- A condition on a player there is not. In its block nothing is done or stored: no party is
    defined, no money is given, and the level is not won. -/
theorem dropped_lines_skimmed_unknown_player :
    let text := "IF(PLAYER9,MONEY >= 5)\nCREATE_PARTY(A)\nSTART_MONEY(PLAYER0,9)\nWIN_GAME\n"
    let before := atPoint text 1 default
    let after := atPoint text 4 default
    after.script = before.script ∧ after.world = before.world := by
  intro text before after
  obtain ⟨skims, _⟩ := dropped_lines_skimmed text default 1 3 (by decide +kernel) (by decide +kernel)
  obtain ⟨_, _, _, _, same⟩ := skims
  have same : after = _ := same
  rw [same]
  exact ⟨rfl, rfl⟩

end Game

end DungeonScript
