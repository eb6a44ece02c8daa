import DungeonScript.Proofs.Game.Balance

/-!
Refusals. A line that ends in a fault leaves the game alone: the world is as it was, no
entry has been stored, lost or altered, and the level version and an announced reusable
command stand. The line may have opened a block whose contents are dropped, if its keyword
opens one, and that is all the next line sees of it (`fault_spares`).

Reading goes on with whatever a line has left of the game, so this is a fact about all that
is done before a fault is found. Between the ways of failing there is no difference: a line
that cannot be read and one that makes no sense have told the game something (`Heard`) and
changed nothing else; a command that is refused has been looked at before anything is
changed, or has gone through all players and met nothing to change (`register_left`).
-/

namespace DungeonScript

namespace Game

/-! ## What a refusal spares -/

/-- `g'` has the world and the entries of `g`, its level version and its announcement. -/
structure Spared (g g' : Game) : Prop where
  world : g'.world = g.world
  entries : { g'.script with quickTexts := g.script.quickTexts } = g.script
  levelVersion : g'.progress.levelVersion = g.progress.levelVersion
  reusableLines : g'.progress.reusableLines = g.progress.reusableLines

theorem Heard.spared {g h : Game} (heard : Heard g h) : Spared g h := by
  obtain ⟨_, _, _, rfl⟩ := heard
  exact ⟨rfl, rfl, rfl, rfl⟩

theorem Spared.passOver {g h : Game} (spared : Spared g h) (v : Verb) :
    Spared g (h.passOver v) := by
  unfold Game.passOver
  split
  · exact ⟨spared.world, spared.entries, spared.levelVersion, spared.reusableLines⟩
  · exact spared

theorem passOver_blocks (v : Verb) (g : Game) : (g.passOver v).progress.blocks =
    if v.opensCondition then .unregistered :: g.progress.blocks else g.progress.blocks := by
  unfold passOver
  split <;> rfl

theorem Heard.blocks {g h : Game} (heard : Heard g h) : h.progress.blocks = g.progress.blocks := by
  obtain ⟨_, _, _, rfl⟩ := heard
  rfl

/-- A line is passed over in a game that has heard of it: either nothing opens, or its
    keyword does and nothing is behind it. -/
theorem passedOver_blocks {pass : Pass} {text : List Char} {g h : Game} {l : ScriptLine}
    (read : g.lineRead pass text = .ok (some l)) (heard : Heard g h) :
    (h.passOver l.verb).progress.blocks = g.progress.blocks ∨
      ScriptLine.part g.progress.levelVersion text = .opens ∧
        (h.passOver l.verb).progress.blocks = .unregistered :: g.progress.blocks := by
  rw [passOver_blocks, heard.blocks, ScriptLine.part_of_read read, Part.ofVerb]
  cases l.verb.opensCondition with
  | true => exact .inr ⟨rfl, rfl⟩
  | false => exact .inl rfl

/-- What a line that ends in a fault leaves behind. -/
theorem LineEnd.spared {pass : Pass} {text : List Char} {g g' : Game} {f : Fault}
    (h : LineEnd pass text g g' (some f)) : Spared g g' ∧
      (g'.progress.blocks = g.progress.blocks ∨
        ScriptLine.part g.progress.levelVersion text = .opens ∧
          g'.progress.blocks = .unregistered :: g.progress.blocks) := by
  cases h with
  | unread _ told => exact ⟨told.heard.spared, .inl told.heard.blocks⟩
  | @senseless l _ h read _ told _ =>
    have heard := told.heard.trans (hear_heard (g.lineMeaning l).asides h)
    exact ⟨heard.spared.passOver _, passedOver_blocks read heard⟩
  | @refused l _ h _ read _ told _ _ =>
    have heard := told.heard.trans (hear_heard (g.lineMeaning l).asides h)
    exact ⟨heard.spared.passOver _, passedOver_blocks read heard⟩

/-- **A fault spares the game.** Whatever state the reading of a script is in, a line that
    ends in a fault leaves the world, all entries, the level version and the announcement of
    a reusable command as they were. The open blocks are as they were as well, but for one
    block without a condition that a line with an opening keyword may have put on top. -/
theorem fault_spares (pass : Pass) (text : List Char) (g : Game) {f : Fault}
    (failed : (scanLine pass text g).value.fault = some f) :
    let g' := (scanLine pass text g).value.left
    Spared g g' ∧
    (g'.progress.blocks = g.progress.blocks ∨
      ScriptLine.part g.progress.levelVersion text = .opens ∧
        g'.progress.blocks = .unregistered :: g.progress.blocks) := by
  have ends := scanLine_ends pass text g
  rw [failed] at ends
  exact ends.spared

/-- A condition on a player there is not. -/
theorem fault_spares_unknown_player :
    let g := (scanLine .full "IF(PLAYER9,MONEY >= 5)".toList default).value.left
    g.world = World.fresh ∧ g.progress.blocks = [.unregistered] := by
  intro g
  obtain ⟨f, failed⟩ : ∃ f,
      (scanLine .full "IF(PLAYER9,MONEY >= 5)".toList default).value.fault = some f :=
    Option.isSome_iff_exists.1 (by decide +kernel)
  obtain ⟨spared, blocks⟩ := fault_spares .full _ default failed
  refine ⟨spared.world, ?_⟩
  rcases blocks with same | ⟨_, opened⟩
  · revert same
    decide +kernel
  · exact opened

end Game

end DungeonScript
