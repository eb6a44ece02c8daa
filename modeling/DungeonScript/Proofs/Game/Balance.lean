import DungeonScript.Proofs.Game.Record

/-!
Balance. The keyword in front of a line says what part the line has in the nesting of
a text; `loadLine_moves` says that the open blocks move accordingly. One exception
remains: an opener whose arguments cannot be read opens nothing, so that its `ENDIF`
closes another block. Everything else that is wrong with an opener leaves a block
without a condition, and nothing inside that block is carried out.

`loadLines_account` balances the books of a whole text, and `blocks_balance` draws the
conclusions: with readable openers every `ENDIF` closes the block of its opener, and a
text that is nested properly is read without a complaint about its blocks exactly if
its openers are readable.
-/

namespace DungeonScript

open ScriptLine

/-! ## Moves -/

/-- What a line does to the open blocks. An opener opens one, a block without a condition
    where everything is dropped; but one that cannot be read opens none. -/
def Part.Moves (readable : Prop) (p p' : Progress) : Part → Prop
  | .opens =>
    (readable → ∃ b, (p.drops = true → b = .unregistered) ∧ p'.blocks = b :: p.blocks) ∧
      (¬readable → p'.blocks = p.blocks)
  | .closes => p'.blocks = p.blocks.tail
  | .neither => p'.blocks = p.blocks

namespace Game

theorem moves_of_not_readable {part : Part} {readable : Prop} {p p' : Progress}
    (hr : ¬readable) (hc : part ≠ .closes) (h : p'.blocks = p.blocks) : part.Moves readable p p' := by
  cases part with
  | opens => exact ⟨fun hr' => absurd hr' hr, fun _ => h⟩
  | closes => exact absurd rfl hc
  | neither => exact h

theorem passOver_moves {v : Verb} {readable : Prop} {g h : Game} (heard : Heard g h)
    (hr : readable) (hv : v ≠ .endif) :
    (Part.ofVerb v).Moves readable g.progress (h.passOver v).progress := by
  obtain ⟨_, _, _, rfl⟩ := heard
  unfold passOver Part.ofVerb
  cases v.opensCondition with
  | true => exact ⟨fun _ => ⟨.unregistered, fun _ => rfl, rfl⟩, absurd hr⟩
  | false =>
    simp only [Bool.false_eq_true, if_false, if_neg hv]
    exact rfl

/-- A command that is registered moves the blocks the way its part says. -/
theorem Registered.moves {c : Command} {g g' : Game} {readable : Prop} (h : Registered g c g')
    (hr : readable) (taken : g.progress.drops = true → c = .endif) :
    c.part.Moves readable g.progress g'.progress := by
  cases h with
  | conditionOpened _ => exact ⟨fun _ => ⟨_, (fun hd => nomatch taken hd), rfl⟩, absurd hr⟩
  | blockClosed hb =>
    show _ = g.progress.blocks.tail
    rw [hb]
    rfl
  | _ => exact rfl

theorem not_closes_of_lineRead {text : List Char} {g : Game}
    (h : ∀ l, g.lineRead .full text ≠ .ok (some l)) :
    ¬Readable g.progress.levelVersion text ∧ part g.progress.levelVersion text ≠ .closes := by
  have hr : ¬Readable g.progress.levelVersion text := fun readable => by
    obtain ⟨l, hl⟩ := (readable_iff _ _ g.dice).1 readable
    exact h l hl
  exact ⟨hr, fun hc => hr (readable_of_closes hc)⟩

theorem LineEnd.moves {text : List Char} {g g' : Game} {f : Option Fault}
    (h : LineEnd .full text g g' f) :
    (part g.progress.levelVersion text).Moves (Readable g.progress.levelVersion text)
      g.progress g'.progress := by
  have readable : ∀ l, g.lineRead .full text = .ok (some l) →
      Readable g.progress.levelVersion text := fun l hl => (readable_iff _ _ g.dice).2 ⟨l, hl⟩
  cases h with
  | unread read told =>
    have none : ∀ l, g.lineRead .full text ≠ .ok (some l) := by simp [read]
    obtain ⟨hr, hc⟩ := not_closes_of_lineRead none
    obtain ⟨_, _, _, rfl⟩ := told
    exact moves_of_not_readable hr hc rfl
  | skipped read told =>
    have none : ∀ l, g.lineRead .full text ≠ .ok (some l) := by simp [read]
    obtain ⟨hr, hc⟩ := not_closes_of_lineRead none
    obtain ⟨_, _, _, rfl⟩ := told
    exact moves_of_not_readable hr hc rfl
  | @dropped l _ read _ verb told =>
    rw [part_of_read read]
    have moves := passOver_moves (Heard.refl g) (readable l read) verb
    obtain ⟨_, _, _, rfl⟩ := told
    exact moves
  | @senseless l f h read _ told meaning =>
    have verb : l.verb ≠ .endif := fun hv => by
      rw [lineMeaning_of_endif hv] at meaning
      cases meaning
    rw [part_of_read read]
    exact passOver_moves (told.heard.trans (hear_heard _ _)) (readable l read) verb
  | @refused l f h c read _ told meaning registered =>
    rw [part_of_read read]
    have heard := told.heard.trans (hear_heard (g.lineMeaning l).asides h)
    by_cases verb : l.verb = .endif
    · -- an `ENDIF` is refused only where there is no block to close
      obtain rfl := command_of_endif verb meaning
      obtain ⟨_, _, _, hh⟩ := heard
      rw [hh] at registered ⊢
      rw [verb]
      cases register_refused registered with
      | full shelf stores => exact absurd rfl stores
      | unexpectedEndif blocks =>
        show g.progress.blocks = g.progress.blocks.tail
        rw [show g.progress.blocks = [] from blocks]
        rfl
    · exact passOver_moves heard (readable l read) verb
  | @done l h g' c read taken told meaning registered =>
    rw [part_of_read read, ← Command.resolve_part g.world g.script l c meaning]
    obtain ⟨_, _, _, hh⟩ := told.heard.trans (hear_heard (g.lineMeaning l).asides h)
    rw [hh] at registered
    exact (register_registered registered).moves (readable l read)
      fun drops => command_of_endif (taken drops) meaning

/-! ## The level version -/

theorem Heard.levelVersion {g h : Game} (heard : Heard g h) :
    h.progress.levelVersion = g.progress.levelVersion := by
  obtain ⟨_, _, _, rfl⟩ := heard
  rfl

theorem passOver_levelVersion (v : Verb) (g : Game) :
    (g.passOver v).progress.levelVersion = g.progress.levelVersion := by
  unfold passOver
  split <;> rfl

theorem Registered.levelVersion {c : Command} {g g' : Game} (h : Registered g c g')
    (hc : ∀ version, c ≠ .levelVersion version) :
    g'.progress.levelVersion = g.progress.levelVersion := by
  cases h with
  | versioned => exact absurd rfl (hc _)
  | _ => rfl

theorem LineEnd.levelVersion {text : List Char} {g g' : Game} {f : Option Fault}
    (h : LineEnd .full text g g' f) : g'.progress.levelVersion = g.progress.levelVersion := by
  rcases h.idle_or_registered with idle | ⟨l, c, k, read, _, meaning, heard, registered⟩
  · cases idle with
    | heard heard => exact heard.levelVersion
    | passedOver v heard => exact (passOver_levelVersion v _).trans heard.levelVersion
  · refine ((register_registered registered).levelVersion ?_).trans heard.levelVersion
    intro version hc
    -- the preliminary pass alone takes a line that sets the version
    have verb := Command.resolve_levelVersion g.world g.script l c meaning version hc
    have takes := (leading?_of_read read).2.2
    rw [verb] at takes
    cases takes

/-! ## Complaints -/

/-- How many complaints about blocks are on record. -/
def complaints (g : Game) : Nat := g.progress.diagnostics.countP (·.remark.onBlocks)

theorem report_complaints (r : Remark) (g : Game) :
    (g.report r).value.complaints = g.complaints + if r.onBlocks then 1 else 0 := by
  show (g.progress.diagnostics ++ [(⟨g.progress.line, r⟩ : Diagnostic)]).countP _ = _
  rw [List.countP_append, List.countP_singleton]
  rfl

theorem report_complaints_of_not {r : Remark} (h : r.onBlocks = false) (g : Game) :
    (g.report r).value.complaints = g.complaints := by
  simp [report_complaints, h]

theorem Told.complaints {g h : Game} (told : Told g h) : h.complaints = g.complaints := by
  obtain ⟨_, more, hm, rfl⟩ := told
  have none : more.countP (·.remark.onBlocks) = 0 :=
    List.countP_eq_zero.2 fun d hd => by simp [hm d hd]
  simp [Game.complaints, List.countP_append, none]

theorem aloof_onBlocks : Remark.Aloof Remark.onBlocks where
  meaning meant := (Remark.eq_false_of_ofMeaning meant).2
  partyAgain _ := rfl
  withoutEffect _ := rfl

theorem complaints_of_said {g g' : Game} (same : g'.said Remark.onBlocks = g.said Remark.onBlocks) :
    g'.complaints = g.complaints := by
  unfold complaints
  rw [List.countP_eq_length_filter, List.countP_eq_length_filter]
  exact congrArg List.length same

/-- Up to the report of its fault, a line says nothing about blocks. -/
theorem LineEnd.complaints {pass : Pass} {text : List Char} {g g' : Game} {f : Option Fault}
    (h : LineEnd pass text g g' f) : g'.complaints = g.complaints := by
  have heard : ∀ {h : Game} (l : ScriptLine), Told g h →
      (hear (g.lineMeaning l).asides h).value.complaints = g.complaints := fun l told =>
    (complaints_of_said (hear_resolve_said aloof_onBlocks g.world g.script l _)).trans
      told.complaints
  have passedOver (v : Verb) (h : Game) : (h.passOver v).complaints = h.complaints :=
    complaints_of_said (passOver_said Remark.onBlocks v h)
  cases h with
  | unread _ told => exact told.complaints
  | skipped _ told => exact told.complaints
  | dropped _ _ _ told => exact told.complaints.trans (passedOver _ g)
  | senseless _ _ told _ => exact (passedOver _ _).trans (heard _ told)
  | refused _ _ told _ _ => exact (passedOver _ _).trans (heard _ told)
  | done _ _ told _ registered =>
    exact (complaints_of_said ((register_registered registered).said aloof_onBlocks)).trans
      (heard _ told)

/-- Only an `ENDIF` of the full pass is unexpected, and only outside of any block. -/
theorem LineEnd.closes_of_unexpectedEndif {pass : Pass} {text : List Char} {g g' : Game}
    (h : LineEnd pass text g g' (some .unexpectedEndif)) :
    pass = .full ∧ part g.progress.levelVersion text = .closes ∧ g.progress.blocks = [] := by
  cases h with
  | unread read told => rcases read_fault read with ⟨_, hf⟩ | ⟨_, hf⟩ | ⟨_, hf⟩ <;> cases hf
  | @senseless l _ h read _ told meaning =>
    -- no fault of the resolver is about blocks
    have meant := (Command.resolve_ofMeaning g.world g.script l).1 _ meaning
    cases meant
  | @refused l _ h c read _ told meaning registered =>
    obtain ⟨_, _, _, hh⟩ := told.heard.trans (hear_heard (g.lineMeaning l).asides h)
    rw [hh] at registered
    cases register_refused registered with
    | unexpectedEndif blocks =>
      have closes : .closes = Part.ofVerb l.verb :=
        Command.resolve_part g.world g.script l _ meaning
      have takes := (leading?_of_read read).2.2
      rw [Part.ofVerb_eq_closes.1 closes.symm] at takes
      refine ⟨?_, by rw [part_of_read read, ← closes], blocks⟩
      cases pass with
      | full => rfl
      | preload => cases takes

/-- An `ENDIF` outside of any block is unexpected. -/
theorem LineEnd.unexpectedEndif_of_closes {text : List Char} {g g' : Game} {f : Option Fault}
    (h : LineEnd .full text g g' f) (closes : part g.progress.levelVersion text = .closes)
    (blocks : g.progress.blocks = []) : f = some .unexpectedEndif := by
  have verb : ∀ {l : ScriptLine}, g.lineRead .full text = .ok (some l) → l.verb = .endif :=
    fun read => Part.ofVerb_eq_closes.1 ((part_of_read read).symm.trans closes)
  cases h with
  | unread read _ => exact absurd closes (not_closes_of_lineRead (by simp [read])).2
  | skipped read _ => exact absurd closes (not_closes_of_lineRead (by simp [read])).2
  | dropped _ drops _ _ => simp [Progress.drops, blocks] at drops
  | senseless read _ _ meaning =>
    rw [lineMeaning_of_endif (verb read)] at meaning
    cases meaning
  | @refused l _ h c read _ told meaning registered =>
    obtain rfl := command_of_endif (verb read) meaning
    cases register_refused registered with
    | full _ stores => exact absurd rfl stores
    | unexpectedEndif _ => rfl
  | @done l h _ c read _ told meaning registered =>
    obtain rfl := command_of_endif (verb read) meaning
    obtain ⟨_, _, _, hh⟩ := told.heard.trans (hear_heard (g.lineMeaning l).asides h)
    rw [hh] at registered
    cases register_registered registered with
    | blockClosed hb =>
      rw [show g.progress.blocks = _ from hb] at blocks
      cases blocks

/-! ## Inside a dropped block -/

/-- `g'` is `g` with other dice, more on record and other open blocks. -/
def Skims (g g' : Game) : Prop :=
  ∃ dice blocks more, g' = { g with
    dice
    progress := { g.progress with blocks, diagnostics := g.progress.diagnostics ++ more } }

theorem Skims.trans {a b c : Game} (h₁ : Skims a b) (h₂ : Skims b c) : Skims a c := by
  obtain ⟨_, _, r₁, rfl⟩ := h₁
  obtain ⟨d₂, b₂, r₂, rfl⟩ := h₂
  exact ⟨d₂, b₂, r₁ ++ r₂, by simp⟩

theorem Told.skims {g h : Game} (told : Told g h) : Skims g h := by
  obtain ⟨d, more, _, rfl⟩ := told
  exact ⟨d, _, more, rfl⟩

theorem report_skims (r : Remark) (g : Game) : Skims g (g.report r).value := ⟨_, _, _, rfl⟩

theorem passOver_skims (v : Verb) (g : Game) : Skims g (g.passOver v) := by
  unfold passOver
  split
  · exact ⟨g.dice, _, [], by rw [List.append_nil]; rfl⟩
  · exact ⟨g.dice, g.progress.blocks, [], by rw [List.append_nil]⟩

/-- Inside a dropped block a line only rolls dice, tells something, and opens or closes a
    block. -/
theorem LineEnd.skims {pass : Pass} {text : List Char} {g g' : Game} {f : Option Fault}
    (h : LineEnd pass text g g' f) (drops : g.progress.drops = true) : Skims g g' := by
  cases h with
  | unread _ told => exact told.skims
  | skipped _ told => exact told.skims
  | @dropped l _ _ _ _ told => exact (passOver_skims l.verb g).trans told.skims
  | senseless _ taken _ meaning =>
    rw [lineMeaning_of_endif (taken drops)] at meaning
    cases meaning
  | @refused l _ h _ _ taken told _ _ =>
    rw [lineMeaning_of_endif (taken drops)]
    exact told.skims.trans (passOver_skims l.verb h)
  | @done l h _ c _ taken told meaning registered =>
    -- what is registered in a dropped block can only be the `ENDIF` that closes it
    obtain rfl := command_of_endif (taken drops) meaning
    rw [lineMeaning_of_endif (taken drops)] at registered
    cases register_registered registered with
    | blockClosed _ => exact told.skims.trans ⟨h.dice, _, [], by rw [List.append_nil]; rfl⟩

/-! ## One line -/

section Line

variable (line : Nat × List Char) (g : Game)

/-- A numbered line of the full pass moves the blocks as its part says. -/
theorem loadLine_moves : (part g.progress.levelVersion line.2).Moves
    (Readable g.progress.levelVersion line.2) g.progress (loadLine .full line g).value.progress := by
  have moves := (scanLine_ends .full line.2 { g with progress := g.progress.atLine line.1 }).moves
  obtain ⟨_, _, _, hh⟩ := loadLine_heard .full line g
  rw [hh]
  exact moves

theorem loadLine_levelVersion :
    (loadLine .full line g).value.progress.levelVersion = g.progress.levelVersion :=
  (loadLine_heard .full line g).levelVersion.trans (scanLine_ends .full line.2 _).levelVersion

theorem loadLines_levelVersion (lines : List (Nat × List Char)) (g : Game) :
    (loadLines .full lines g).value.progress.levelVersion = g.progress.levelVersion :=
  loadLines_keeps (P := fun h => h.progress.levelVersion = g.progress.levelVersion)
    (fun line h same => (loadLine_levelVersion line h).trans same) lines rfl

/-- A line adds a complaint exactly if it is an `ENDIF` outside of any block. -/
theorem loadLine_complaints (pass : Pass) : (loadLine pass line g).value.complaints =
    g.complaints + if pass = .full ∧ part g.progress.levelVersion line.2 = .closes ∧
      g.progress.blocks = [] then 1 else 0 := by
  have ends := scanLine_ends pass line.2 { g with progress := g.progress.atLine line.1 }
  rw [loadLine_value]
  generalize (scanLine pass line.2 _).value = r at ends
  obtain ⟨g', f⟩ := r
  have same : g'.complaints = g.complaints := ends.complaints
  cases f with
  | none =>
    rw [if_neg, Nat.add_zero]
    · exact same
    · intro h
      obtain ⟨rfl, closes, blocks⟩ := h
      cases ends.unexpectedEndif_of_closes closes blocks
  | some f =>
    simp only [report_complaints, same, Nat.add_left_cancel_iff]
    by_cases hf : f = .unexpectedEndif
    · subst hf
      exact (if_pos ends.closes_of_unexpectedEndif).symm
    · rw [if_neg (by simp [hf]), if_neg]
      intro h
      obtain ⟨rfl, closes, blocks⟩ := h
      exact hf (Option.some.inj (ends.unexpectedEndif_of_closes closes blocks))

/-- Inside a dropped block all that a numbered line does besides is to be counted. -/
theorem loadLine_skims (pass : Pass) (drops : g.progress.drops = true) :
    Skims { g with progress := g.progress.atLine line.1 } (loadLine pass line g).value := by
  have ends := scanLine_ends pass line.2 { g with progress := g.progress.atLine line.1 }
  rw [loadLine_value]
  split
  · exact (ends.skims drops).trans (report_skims _ _)
  · exact ends.skims drops

/-- Inside a dropped block a line changes neither the store nor the world. -/
theorem loadLine_idle (pass : Pass) (drops : g.progress.drops = true) :
    (loadLine pass line g).value.script = g.script ∧
      (loadLine pass line g).value.world = g.world := by
  obtain ⟨_, _, _, same⟩ := loadLine_skims line g pass drops
  rw [same]
  exact ⟨rfl, rfl⟩

end Line

/-! ## Nesting -/

/-- How deep a text is nested after a line, by the depth before it; none if the line
    closes more than was open. -/
def descend : Part → Nat → Option Nat
  | .opens, depth => some (depth + 1)
  | .closes, 0 => none
  | .closes, depth + 1 => some depth
  | .neither, depth => some depth

/-- How deep a text is nested after some lines. -/
def nesting (levelVersion : Int) : Nat → List (Nat × List Char) → Option Nat
  | depth, [] => some depth
  | depth, line :: rest => do
    let depth ← descend (part levelVersion line.2) depth
    nesting levelVersion depth rest

theorem nesting_cons {v : Int} {depth depth' : Nat} {line : Nat × List Char}
    {rest : List (Nat × List Char)} (h : nesting v depth (line :: rest) = some depth') :
    ∃ between, descend (part v line.2) depth = some between ∧
      nesting v between rest = some depth' :=
  Option.bind_eq_some_iff.1 h

/-- The line is an opener that cannot be read. -/
def Misses (levelVersion : Int) (line : Nat × List Char) : Prop :=
  part levelVersion line.2 = .opens ∧ ¬Readable levelVersion line.2

instance (levelVersion : Int) (line : Nat × List Char) : Decidable (Misses levelVersion line) :=
  inferInstanceAs (Decidable (_ ∧ _))

/-- The books of one line: an opener that is missed weighs as much as a block that is
    opened, and a complaint as much as a block that is closed. -/
theorem loadLine_account (line : Nat × List Char) (g : Game) {depth depth' : Nat}
    (h : descend (part g.progress.levelVersion line.2) depth = some depth') :
    (loadLine .full line g).value.progress.blocks.length +
        (if Misses g.progress.levelVersion line then 1 else 0) + depth + g.complaints =
      g.progress.blocks.length + depth' + (loadLine .full line g).value.complaints := by
  have moves := loadLine_moves line g
  have said := loadLine_complaints line g .full
  cases hp : part g.progress.levelVersion line.2 with
  | opens =>
    rw [hp] at moves h
    obtain rfl := Option.some.inj h
    rw [if_neg (by simp [hp]), Nat.add_zero] at said
    by_cases hr : Readable g.progress.levelVersion line.2
    · obtain ⟨b, _, hb⟩ := moves.1 hr
      rw [hb, said, if_neg fun hm => hm.2 hr, List.length_cons]
      omega
    · rw [moves.2 hr, said, if_pos ⟨hp, hr⟩]
      omega
  | closes =>
    rw [hp] at moves h
    have hb : _ = g.progress.blocks.tail := moves
    have hm : ¬Misses g.progress.levelVersion line := fun hm => nomatch hp.symm.trans hm.1
    rw [hb, said, if_neg hm]
    cases depth with
    | zero => cases h
    | succ depth =>
      obtain rfl := Option.some.inj h
      -- with no block to close the line is complained about instead
      cases hs : g.progress.blocks with
      | nil => simp [hp]; omega
      | cons b outer => simp [hp]; omega
  | neither =>
    rw [hp] at moves h
    obtain rfl := Option.some.inj h
    have hb : _ = g.progress.blocks := moves
    have hm : ¬Misses g.progress.levelVersion line := fun hm => nomatch hp.symm.trans hm.1
    rw [hb, said, if_neg hm, if_neg (by simp [hp])]
    omega

/-- **The books balance.** However a text is read, the blocks that are open in the end
    and the openers that were missed make up for its depth and the complaints. -/
theorem loadLines_account {v : Int} (lines : List (Nat × List Char)) {g : Game} {depth depth' : Nat}
    (hv : g.progress.levelVersion = v) (h : nesting v depth lines = some depth') :
    (loadLines .full lines g).value.progress.blocks.length + lines.countP (Misses v ·) + depth +
        g.complaints =
      g.progress.blocks.length + depth' + (loadLines .full lines g).value.complaints := by
  induction lines generalizing g depth with
  | nil =>
    obtain rfl := Option.some.inj h
    show g.progress.blocks.length + 0 + _ + g.complaints = _ + _ + g.complaints
    omega
  | cons line rest ih =>
    obtain ⟨between, hline, hrest⟩ := nesting_cons h
    subst hv
    have first := loadLine_account line g hline
    have others := ih (loadLine_levelVersion line g) hrest
    simp only [loadLines, Logged.value_bind, List.countP_cons, decide_eq_true_eq]
    omega

/-- A line that is not missed opens or closes one of the `inner` blocks, or none, and
    leaves those around them alone. -/
theorem loadLine_opened {line : Nat × List Char} {g : Game} {inner outer : List Block} {depth : Nat}
    (h : descend (part g.progress.levelVersion line.2) inner.length = some depth)
    (hm : ¬Misses g.progress.levelVersion line) (hb : g.progress.blocks = inner ++ outer) :
    ∃ inner', inner'.length = depth ∧
      (loadLine .full line g).value.progress.blocks = inner' ++ outer := by
  have moves := loadLine_moves line g
  cases hp : part g.progress.levelVersion line.2 with
  | opens =>
    rw [hp] at moves h
    have hr : Readable g.progress.levelVersion line.2 :=
      Decidable.byContradiction fun hr => hm ⟨hp, hr⟩
    obtain ⟨b, _, hopen⟩ := moves.1 hr
    refine ⟨b :: inner, Option.some.inj h, ?_⟩
    rw [hopen, hb, List.cons_append]
  | closes =>
    rw [hp] at moves h
    have hclose : _ = g.progress.blocks.tail := moves
    -- the nesting allows for a closing line only inside one of the `inner` blocks
    cases inner with
    | nil => cases h
    | cons b inner =>
      refine ⟨inner, Option.some.inj h, ?_⟩
      rw [hclose, hb]
      rfl
  | neither =>
    rw [hp] at moves h
    exact ⟨inner, Option.some.inj h, Eq.trans moves hb⟩

/-- Where no opener is missed, the lines open as many blocks as they are deep, inside
    those that were open. -/
theorem loadLines_opened {v : Int} (lines : List (Nat × List Char)) {g : Game}
    (inner outer : List Block) {depth : Nat} (hv : g.progress.levelVersion = v)
    (h : nesting v inner.length lines = some depth) (hm : ∀ line ∈ lines, ¬Misses v line)
    (hb : g.progress.blocks = inner ++ outer) :
    ∃ inner', inner'.length = depth ∧
      (loadLines .full lines g).value.progress.blocks = inner' ++ outer := by
  induction lines generalizing g inner with
  | nil => exact ⟨inner, Option.some.inj h, hb⟩
  | cons line rest ih =>
    obtain ⟨between, hline, hrest⟩ := nesting_cons h
    subst hv
    obtain ⟨inner₁, rfl, hb₁⟩ := loadLine_opened hline (hm line List.mem_cons_self) hb
    apply ih inner₁ (loadLine_levelVersion line g) hrest _ hb₁
    intro l hl
    exact hm l (List.mem_cons_of_mem line hl)

/-- Inside dropped blocks, a line that is not missed opens another dropped block, closes
    one or does neither. -/
theorem loadLine_dropped {line : Nat × List Char} {g : Game} {inner depth : Nat}
    {outer : List Block} (h : descend (part g.progress.levelVersion line.2) inner = some depth)
    (hm : ¬Misses g.progress.levelVersion line)
    (hb : g.progress.blocks = List.replicate (inner + 1) .unregistered ++ outer) :
    (loadLine .full line g).value.progress.blocks =
      List.replicate (depth + 1) .unregistered ++ outer := by
  have drops : g.progress.drops = true := by simp [Progress.drops, hb, List.replicate_succ]
  have moves := loadLine_moves line g
  cases hp : part g.progress.levelVersion line.2 with
  | opens =>
    rw [hp] at moves h
    obtain rfl := Option.some.inj h
    have hr : Readable g.progress.levelVersion line.2 :=
      Decidable.byContradiction fun hr => hm ⟨hp, hr⟩
    obtain ⟨b, dropped, hopen⟩ := moves.1 hr
    rw [hopen, hb, dropped drops]
    rfl
  | closes =>
    rw [hp] at moves h
    have hclose : _ = g.progress.blocks.tail := moves
    -- the outermost of these blocks is closed by a line that comes after all of this
    cases inner with
    | zero => cases h
    | succ inner =>
      obtain rfl := Option.some.inj h
      rw [hclose, hb]
      rfl
  | neither =>
    rw [hp] at moves h
    obtain rfl := Option.some.inj h
    exact Eq.trans moves hb

/-- Inside a dropped block of any depth the lines change neither the store nor the
    world, until they close it. -/
theorem loadLines_idle {v : Int} (lines : List (Nat × List Char)) {g : Game} (inner : Nat)
    {outer : List Block} {depth : Nat} (hv : g.progress.levelVersion = v)
    (h : nesting v inner lines = some depth) (hm : ∀ line ∈ lines, ¬Misses v line)
    (hb : g.progress.blocks = List.replicate (inner + 1) .unregistered ++ outer) :
    (loadLines .full lines g).value.script = g.script ∧
      (loadLines .full lines g).value.world = g.world := by
  induction lines generalizing g inner with
  | nil => exact ⟨rfl, rfl⟩
  | cons line rest ih =>
    obtain ⟨between, hline, hrest⟩ := nesting_cons h
    subst hv
    have drops : g.progress.drops = true := by simp [Progress.drops, hb, List.replicate_succ]
    have hb₁ := loadLine_dropped hline (hm line List.mem_cons_self) hb
    have missed : ∀ l ∈ rest, ¬Misses g.progress.levelVersion l :=
      fun l hl => hm l (List.mem_cons_of_mem line hl)
    have idle := loadLine_idle line g .full drops
    have others := ih between (loadLine_levelVersion line g) hrest missed hb₁
    exact ⟨others.1.trans idle.1, others.2.trans idle.2⟩

/-! ## A whole text -/

theorem preload_complaints (text : String) (g : Game) : (g.preload text).value.complaints = 0 := by
  have kept : ∀ (lines : List (Nat × List Char)) (g : Game),
      (loadLines .preload lines g).value.complaints = g.complaints := by
    intro lines
    induction lines with
    | nil => exact fun _ => rfl
    | cons line rest ih =>
      intro g
      refine (ih _).trans ((loadLine_complaints line g .preload).trans ?_)
      rw [if_neg (by simp), Nat.add_zero]
  exact kept (scriptLines text) _

theorem sumUp_complaints (g : Game) :
    g.sumUp.value.complaints = g.complaints + if g.progress.blocks = [] then 0 else 1 := by
  have same : ∀ (c : Bool) (g : Game), (g.reportIf c .nothingWins).value.complaints = g.complaints ∧
      (g.reportIf c .nothingWins).value.progress.blocks = g.progress.blocks := by
    intro c g
    cases c with
    | true => exact ⟨report_complaints_of_not (by simp) g, rfl⟩
    | false => exact ⟨rfl, rfl⟩
  have missing : ∀ g : Game, (g.reportIf g.progress.inBlock .missingEndif).value.complaints =
      g.complaints + if g.progress.blocks = [] then 0 else 1 := by
    intro g
    cases hb : g.progress.blocks with
    | nil => simp [reportIf, Progress.inBlock, hb]
    | cons b outer =>
      simp only [reportIf, Progress.inBlock, hb, List.isEmpty_cons, Bool.not_false, if_true]
      exact report_complaints .missingEndif g
  unfold sumUp
  simp only [Logged.value_bind, report_complaints_of_not (r := .resources _) (by simp)]
  rw [missing, (same _ g).1, (same _ g).2]

/-- **Read without complaint.** A text that is properly nested is read without a complaint
    about its blocks exactly if none of its openers is missed. -/
theorem loadLevel_complaints {text : String} {g : Game}
    (nested : nesting (g.preload text).value.progress.levelVersion 0 (scriptLines text) = some 0) :
    (g.loadLevel text).value.complaints = 0 ↔
      ∀ line ∈ scriptLines text, ¬Misses (g.preload text).value.progress.levelVersion line := by
  have said := preload_complaints text g
  simp only [loadLevel, load, runPass, Logged.value_bind]
  generalize (g.preload text).value = p at nested said ⊢
  have account := loadLines_account (scriptLines text) (g := p.cleared) rfl nested
  have opened := loadLines_opened (scriptLines text) (g := p.cleared) [] [] rfl nested
  generalize (loadLines .full (scriptLines text) p.cleared).value = last at account opened
  have said : p.cleared.complaints = 0 := said
  have closed : p.cleared.progress.blocks.length = 0 := rfl
  have missed : (scriptLines text).countP (Misses p.progress.levelVersion ·) = 0 ↔
      ∀ line ∈ scriptLines text, ¬Misses p.progress.levelVersion line := by
    simp [List.countP_eq_zero]
  have sum : (sumUp { last with progress := last.progress.outside }).value.complaints =
      last.complaints + if last.progress.blocks = [] then 0 else 1 := sumUp_complaints _
  show (sumUp { last with progress := last.progress.outside }).value.complaints = 0 ↔ _
  rw [sum]
  have levelVersion : p.cleared.progress.levelVersion = p.progress.levelVersion := rfl
  rw [levelVersion] at account opened
  constructor
  · intro h
    -- `account` leaves nothing for the openers that were missed
    refine missed.1 ?_
    omega
  · intro h
    obtain ⟨inner, hlen, hb⟩ := opened h rfl
    have hb : last.progress.blocks = [] := by
      rw [hb, List.eq_nil_of_length_eq_zero hlen, List.append_nil]
    have none := missed.2 h
    rw [if_pos hb]
    rw [hb, List.length_nil] at account
    omega

/-- No complaints means that none of the two remarks about blocks is on record. -/
theorem complaints_eq_zero {g : Game} : g.complaints = 0 ↔ ∀ d ∈ g.progress.diagnostics,
    d.remark ≠ .fault .unexpectedEndif ∧ d.remark ≠ .missingEndif := by
  unfold complaints
  rw [List.countP_eq_zero]
  refine forall₂_congr fun d _ => ?_
  constructor
  · intro h
    exact ⟨fun hr => h (by rw [hr]; rfl), fun hr => h (by rw [hr]; rfl)⟩
  · intro others h
    obtain ⟨hf, hm⟩ := others
    rw [Remark.onBlocks_eq_false hf hm] at h
    cases h

/-- An opener that is missed is reported for a word that cannot be read, or for too few
    arguments. -/
theorem missed_fault {text : List Char} {g : Game}
    (opens : part g.progress.levelVersion text = .opens)
    (hr : ¬Readable g.progress.levelVersion text) :
    ∃ f, (scanLine .full text g).value.fault = some f ∧
      ((∃ e, f = .scan e) ∨ ∃ keyword, f = .notEnoughParameters keyword) := by
  rcases read_of_opens opens g.dice with ⟨l, hl⟩ | ⟨f, hf, hreason⟩
  · exact absurd ((readable_iff _ _ g.dice).2 ⟨l, hl⟩) hr
  · refine ⟨f, ?_, hreason⟩
    unfold scanLine
    rw [Logged.value_bind, hf]
    rfl

theorem nesting_take {v : Int} (n : Nat) (lines : List (Nat × List Char)) {depth depth' : Nat}
    (h : nesting v depth lines = some depth') :
    ∃ between, nesting v depth (lines.take n) = some between := by
  induction lines generalizing n depth with
  | nil =>
    rw [List.take_nil]
    exact ⟨_, h⟩
  | cons line rest ih =>
    cases n with
    | zero => exact ⟨depth, rfl⟩
    | succ n =>
      obtain ⟨next, hline, hrest⟩ := nesting_cons h
      obtain ⟨between, hb⟩ := ih n hrest
      exact ⟨between, Option.bind_eq_some_iff.2 ⟨next, hline, hb⟩⟩

/-- A well nested block, from its opener to its `ENDIF`. -/
structure IsBlock (v : Int) (opener : Nat × List Char) (inner : List (Nat × List Char))
    (closer : Nat × List Char) : Prop where
  opens : part v opener.2 = .opens
  closes : part v closer.2 = .closes
  nested : nesting v 0 inner = some 0
  readable : ∀ line ∈ opener :: inner, ¬Misses v line

/-- An `ENDIF` closes the block of its opener; and if that block has no condition, nothing
    in it is carried out. -/
theorem loadLines_block {opener closer : Nat × List Char} {inner : List (Nat × List Char)}
    {g : Game} (h : IsBlock g.progress.levelVersion opener inner closer) :
    ∃ b, (loadLine .full opener g).value.progress.blocks = b :: g.progress.blocks ∧
      (loadLines .full (opener :: inner) g).value.progress.blocks = b :: g.progress.blocks ∧
      (loadLines .full (opener :: inner ++ [closer]) g).value.progress.blocks =
        g.progress.blocks ∧
      (b = .unregistered → ∀ n,
        (loadLines .full (opener :: inner.take n) g).value.script =
          (loadLine .full opener g).value.script ∧
        (loadLines .full (opener :: inner.take n) g).value.world =
          (loadLine .full opener g).value.world) := by
  have moves := loadLine_moves opener g
  rw [h.opens] at moves
  have hr : Readable g.progress.levelVersion opener.2 :=
    Decidable.byContradiction fun hr => h.readable opener List.mem_cons_self ⟨h.opens, hr⟩
  obtain ⟨b, _, hb⟩ := moves.1 hr
  have version := loadLine_levelVersion opener g
  have readable : ∀ line ∈ inner, ¬Misses g.progress.levelVersion line :=
    fun line hl => h.readable line (List.mem_cons_of_mem _ hl)
  obtain ⟨opened, hlen, hopened⟩ :=
    loadLines_opened inner [] (b :: g.progress.blocks) version h.nested readable hb
  have hopened : (loadLines .full (opener :: inner) g).value.progress.blocks =
      b :: g.progress.blocks := by
    rw [List.eq_nil_of_length_eq_zero hlen] at hopened
    exact hopened
  refine ⟨b, hb, hopened, ?_, ?_⟩
  · rw [loadLines_append]
    have close := loadLine_moves closer (loadLines .full (opener :: inner) g).value
    rw [loadLines_levelVersion, h.closes] at close
    have hclose : _ = List.tail _ := close
    rw [hopened] at hclose
    exact hclose
  · intro dropped n
    subst dropped
    obtain ⟨depth, hdepth⟩ := nesting_take n inner h.nested
    apply loadLines_idle (inner.take n) 0 version hdepth _ hb
    intro line hl
    exact readable line (List.mem_of_mem_take hl)

/-- **Blocks balance, but for openers that are missed.** An opener opens one block,
    whatever comes of it, exactly if it can be read. A block whose openers can all be read
    is closed by the `ENDIF` of its opener, and if its condition was not registered nothing
    in it is carried out. And a text that is properly nested is read without a complaint
    about its blocks exactly if all its openers can be read. -/
theorem blocks_balance (g : Game) :
    (∀ line : Nat × List Char, part g.progress.levelVersion line.2 = .opens →
      ((loadLine .full line g).value.progress.blocks.length = g.progress.blocks.length + 1 ↔
        Readable g.progress.levelVersion line.2) ∧
      (Readable g.progress.levelVersion line.2 →
        ∃ b, (loadLine .full line g).value.progress.blocks = b :: g.progress.blocks) ∧
      (¬Readable g.progress.levelVersion line.2 →
        (loadLine .full line g).value.progress.blocks = g.progress.blocks ∧
        ∃ f, (scanLine .full line.2 g).value.fault = some f ∧
          ((∃ e, f = .scan e) ∨ ∃ keyword, f = .notEnoughParameters keyword))) ∧
    (∀ (opener closer : Nat × List Char) (inner : List (Nat × List Char)),
      IsBlock g.progress.levelVersion opener inner closer →
      ∃ b, (loadLine .full opener g).value.progress.blocks = b :: g.progress.blocks ∧
        (loadLines .full (opener :: inner) g).value.progress.blocks = b :: g.progress.blocks ∧
        (loadLines .full (opener :: inner ++ [closer]) g).value.progress.blocks =
          g.progress.blocks ∧
        (b = .unregistered → ∀ n,
          (loadLines .full (opener :: inner.take n) g).value.script =
            (loadLine .full opener g).value.script ∧
          (loadLines .full (opener :: inner.take n) g).value.world =
            (loadLine .full opener g).value.world)) ∧
    (∀ text : String,
      nesting (g.preload text).value.progress.levelVersion 0 (scriptLines text) = some 0 →
      ((∀ d ∈ (g.loadLevel text).value.progress.diagnostics,
          d.remark ≠ .fault .unexpectedEndif ∧ d.remark ≠ .missingEndif) ↔
        ∀ line ∈ scriptLines text,
          part (g.preload text).value.progress.levelVersion line.2 = .opens →
          Readable (g.preload text).value.progress.levelVersion line.2)) := by
  refine ⟨fun line opens => ?_, fun opener closer inner h => loadLines_block h, fun text nested => ?_⟩
  · have moves := loadLine_moves line g
    rw [opens] at moves
    refine ⟨⟨fun grows => Decidable.byContradiction fun hr => ?_, fun hr => ?_⟩, fun hr => ?_,
      fun hr => ⟨moves.2 hr, missed_fault opens hr⟩⟩
    · rw [moves.2 hr] at grows
      omega
    · obtain ⟨b, _, hb⟩ := moves.1 hr
      rw [hb, List.length_cons]
    · obtain ⟨b, _, hb⟩ := moves.1 hr
      exact ⟨b, hb⟩
  · rw [← complaints_eq_zero, loadLevel_complaints nested]
    refine forall₂_congr fun line _ => ?_
    simp [Misses]

/-- With too few arguments an `IF` opens nothing, and a text in which it stands is
    complained about. An `IF` of nobody can be read and fails all the same: its `ENDIF`
    closes a block, and the line between the two is not carried out. -/
theorem openers_missed_and_failed :
    let missed := (1, "IF(PLAYER0)".toList)
    let failed := (1, "IF(NOBODY,MONEY >= 100)".toList)
    let inside := (2, "SET_FLAG(PLAYER0,FLAG0,3)".toList)
    let closer := (3, "ENDIF".toList)
    (¬Readable 0 missed.2 ∧ (loadLine .full missed default).value.progress.blocks = []) ∧
      (IsBlock 0 failed [inside] closer ∧
        (loadLines .full [failed, inside] default).value.world =
          (loadLine .full failed default).value.world ∧
        (loadLines .full [failed, inside, closer] default).value.progress.blocks =
          (default : Game).progress.blocks) ∧
      (nesting 0 0 (scriptLines "IF(PLAYER0)\nENDIF\n") = some 0 ∧
        ∃ d ∈ (loadLevel "IF(PLAYER0)\nENDIF\n" default).value.progress.diagnostics,
          d.remark = .fault .unexpectedEndif ∨ d.remark = .missingEndif) := by
  intro missed failed inside closer
  obtain ⟨line, block, text⟩ := blocks_balance default
  refine ⟨?_, ?_, ?_⟩
  · have unread : ¬Readable 0 missed.2 := by decide +kernel
    exact ⟨unread, ((line missed (by decide +kernel)).2.2 unread).1⟩
  · have isBlock : IsBlock 0 failed [inside] closer :=
      ⟨by decide +kernel, by decide +kernel, by decide +kernel, by decide +kernel⟩
    obtain ⟨b, opened, _, closed, idle⟩ := block failed closer [inside] isBlock
    have unknown : (loadLine .full failed default).value.progress.blocks = [.unregistered] := by
      decide +kernel
    rw [unknown] at opened
    rw [List.cons_append, List.singleton_append] at closed
    have dropped : .unregistered = b := (List.cons.inj opened).1
    exact ⟨isBlock, (idle dropped.symm 1).2, closed⟩
  · have nested : nesting 0 0 (scriptLines "IF(PLAYER0)\nENDIF\n") = some 0 := by decide +kernel
    have version : (preload "IF(PLAYER0)\nENDIF\n" default).value.progress.levelVersion = 0 := by
      decide +kernel
    have complained := text "IF(PLAYER0)\nENDIF\n"
    rw [version] at complained
    refine ⟨nested, Classical.byContradiction fun quiet => ?_⟩
    have readable := (complained nested).1 fun d hd =>
      ⟨fun hf => quiet ⟨d, hd, .inl hf⟩, fun hm => quiet ⟨d, hd, .inr hm⟩⟩
    revert readable
    decide +kernel

end Game

end DungeonScript
