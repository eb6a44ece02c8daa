import DungeonScript.Game.Loading
import DungeonScript.Proofs.Game.Registered
import DungeonScript.Proofs.Reading
import DungeonScript.Proofs.ScriptLine

/-!
One line of a script, inside out. Reading a line rolls dice and puts remarks on
record; making sense of it may set quick texts as well; everything else is done by
the one command the line comes to. `Told` and `Heard` name what the first two can
change, and `scanLine_ends` lists the six ways a line can end, each with what led to
it. Every statement about what a line does goes through this list, so that no other
proof opens the reader. Where it does not matter why nothing comes of a line, the list
is two items long: a line is idle, or its command is registered (`idle_or_registered`).
What comes of it word for word is an equation, `scanLine_value`.
-/

namespace DungeonScript

theorem Script.setQuickText_eq (s : Script) (index : Nat) (text : String) :
    ∃ quickTexts, s.setQuickText index text = { s with quickTexts } := by
  unfold Script.setQuickText
  split
  · exact ⟨_, rfl⟩
  · exact ⟨_, rfl⟩

/-- The store with these quick texts set, one after the other. -/
def Script.setQuickTexts (s : Script) (texts : List (Nat × String)) : Script :=
  texts.foldl (fun s t => s.setQuickText t.1 t.2) s

namespace Game

/-! ## Listening -/

/-- `g'` is `g` with other dice and more on record, but nothing about blocks. -/
def Told (g g' : Game) : Prop :=
  ∃ dice more, (∀ d ∈ more, d.remark.onBlocks = false) ∧ g' = { g with
    dice
    progress := { g.progress with diagnostics := g.progress.diagnostics ++ more } }

/-- `g'` is `g` with other dice, another record and other quick texts. -/
def Heard (g g' : Game) : Prop :=
  ∃ dice diagnostics quickTexts, g' = { g with
    dice
    progress := { g.progress with diagnostics }
    script := { g.script with quickTexts } }

theorem Told.refl (g : Game) : Told g g := ⟨g.dice, [], by simp, by simp⟩

theorem Told.trans {a b c : Game} (h₁ : Told a b) (h₂ : Told b c) : Told a c := by
  obtain ⟨d₁, r₁, hr₁, rfl⟩ := h₁
  obtain ⟨d₂, r₂, hr₂, rfl⟩ := h₂
  refine ⟨d₂, r₁ ++ r₂, fun d hd => ?_, by simp⟩
  rcases List.mem_append.1 hd with hd | hd
  · exact hr₁ d hd
  · exact hr₂ d hd

theorem Told.heard {a b : Game} (h : Told a b) : Heard a b := by
  obtain ⟨d, r, _, rfl⟩ := h
  exact ⟨d, _, _, rfl⟩

theorem Heard.refl (g : Game) : Heard g g := (Told.refl g).heard

theorem Heard.trans {a b c : Game} (h₁ : Heard a b) (h₂ : Heard b c) : Heard a c := by
  obtain ⟨d₁, r₁, q₁, rfl⟩ := h₁
  obtain ⟨d₂, r₂, q₂, rfl⟩ := h₂
  exact ⟨d₂, r₂, q₂, rfl⟩

theorem report_heard (r : Remark) (g : Game) : Heard g (g.report r).value := ⟨_, _, _, rfl⟩

theorem report_told {r : Remark} (h : r.onBlocks = false) (g : Game) : Told g (g.report r).value :=
  ⟨_, [⟨g.progress.line, r⟩], by simpa using h, rfl⟩

theorem hear_heard : ∀ (asides : List Aside) (g : Game), Heard g (hear asides g).value
  | [], g => Heard.refl g
  | .remark r :: rest, g => (report_heard r g).trans (hear_heard rest _)
  | .caution _ :: rest, g => hear_heard rest g
  | .quickText index text :: rest, g => by
    obtain ⟨texts, h⟩ := g.script.setQuickText_eq index text
    have first : Heard g { g with script := g.script.setQuickText index text } :=
      ⟨_, _, texts, by rw [h]⟩
    exact first.trans (hear_heard rest _)

theorem hear_script : ∀ (asides : List Aside) (g : Game),
    (hear asides g).value.script = g.script.setQuickTexts (asides.filterMap Aside.text?)
  | [], _ => rfl
  | .remark r :: rest, g => hear_script rest (g.report r).value
  | .caution _ :: rest, g => hear_script rest g
  | .quickText index text :: rest, g =>
    hear_script rest { g with script := g.script.setQuickText index text }

theorem hear_told : ∀ (asides : List Aside) (g : Game), (∀ a ∈ asides, a.Plain) →
    Told g (hear asides g).value
  | [], g, _ => Told.refl g
  | .remark _ :: rest, g, h =>
    (report_told (h _ List.mem_cons_self) g).trans
      (hear_told rest _ fun a ha => h a (List.mem_cons_of_mem _ ha))
  | .caution _ :: rest, g, h => hear_told rest g fun a ha => h a (List.mem_cons_of_mem _ ha)
  | .quickText _ _ :: _, _, h => absurd (h _ List.mem_cons_self) id

/-- The game with these remarks on record, about the line being read. -/
def noted (remarks : List Remark) (g : Game) : Game := { g with
  progress := { g.progress with
    diagnostics := g.progress.diagnostics ++ remarks.map (⟨g.progress.line, ·⟩) } }

theorem noted_noted (rs rs' : List Remark) (g : Game) :
    (g.noted rs).noted rs' = g.noted (rs ++ rs') := by
  simp [noted]

/-- Asides that only tell go on record, and that is all. -/
theorem hear_of_plain (asides : List Aside) (g : Game) (plain : ∀ a ∈ asides, a.Plain) :
    (hear asides g).value = g.noted (asides.filterMap Aside.remark?) := by
  induction asides generalizing g with
  | nil => simp [hear, noted]
  | cons a rest ih =>
    have later : ∀ b ∈ rest, b.Plain := fun b hb => plain b (List.mem_cons_of_mem _ hb)
    cases a with
    | remark r => exact (ih (g.noted [r]) later).trans (noted_noted [r] _ g)
    | caution c => exact ih g later
    | quickText index text => cases plain _ List.mem_cons_self

/-! ## Taking a line -/

/-- The game with a remark on a setup command inside a block, if the line is one. -/
def remarkedOn (l : ScriptLine) (g : Game) : Game :=
  if l.verb.isSetupOnly && g.progress.inBlock then (g.report (.insideBlock l.usage.keyword)).value
  else g

/-- A line is remarked on, and then dropped or carried out. -/
theorem takeLine_value (l : ScriptLine) (g : Game) : (g.takeLine l).value =
    if (g.remarkedOn l).progress.drops && l.verb ≠ .endif then
      .done (((g.remarkedOn l).passOver l.verb).report (.dropped l.usage.keyword)).value
    else ((g.remarkedOn l).carryOut l).value := by
  have dropOrCarryOut : ∀ h : Game,
      (if h.progress.drops && l.verb ≠ .endif then do
          let g ← (h.passOver l.verb).report (.dropped l.usage.keyword)
          return .done g
        else h.carryOut l : Logged (Attempt Game)).value =
      if h.progress.drops && l.verb ≠ .endif then
        .done ((h.passOver l.verb).report (.dropped l.usage.keyword)).value
      else (h.carryOut l).value := by
    intro h
    split <;> rfl
  unfold takeLine remarkedOn
  split
  · exact dropOrCarryOut _
  · exact dropOrCarryOut g

/-- What is left to do of a line once its words have been read. -/
def afterReading (h : Game) : Except Fault (Option ScriptLine) → Attempt Game
  | .error f => .failed f h
  | .ok none => .done h
  | .ok (some l) => (h.takeLine l).value

/-- A line is read first. What is remarked on goes on record, whatever comes of the line. -/
theorem scanLine_value (pass : Pass) (text : List Char) (g : Game) :
    let r := ScriptLine.read g.progress.levelVersion pass text g.dice
    (scanLine pass text g).value =
      afterReading (noted (r.asides.filterMap Aside.remark?) { g with dice := r.dice }) r.outcome := by
  intro r
  have heard : (hear r.asides { g with dice := r.dice }).value =
      noted (r.asides.filterMap Aside.remark?) { g with dice := r.dice } :=
    hear_of_plain _ _ (ScriptLine.plain_read _ _ _ _)
  unfold scanLine
  rw [Logged.value_bind, heard]
  cases r.outcome with
  | error f => rfl
  | ok o => cases o <;> rfl

/-! ## The six ends of a line -/

/-- What the reader makes of a line in this game. -/
def lineRead (pass : Pass) (text : List Char) (g : Game) : Except Fault (Option ScriptLine) :=
  (ScriptLine.read g.progress.levelVersion pass text g.dice).outcome

/-- What the resolver makes of a line in this game. -/
def lineMeaning (l : ScriptLine) (g : Game) : Reading Command := Command.resolve g.world g.script l

/-- How a line can end, the game it leaves and the fault it reports. In all but the
    first two cases `l` is the line as read; `Told g h` holds of the game `h` in which
    its meaning is looked up. -/
inductive LineEnd (pass : Pass) (text : List Char) (g : Game) : Game → Option Fault → Prop where
  /-- The line cannot be read. -/
  | unread {f : Fault} {g' : Game} (read : g.lineRead pass text = .error f) (told : Told g g') :
      LineEnd pass text g g' (some f)
  /-- The line is not for this pass. -/
  | skipped {g' : Game} (read : g.lineRead pass text = .ok none) (told : Told g g') :
      LineEnd pass text g g' none
  /-- The line stands in a block whose contents are dropped. -/
  | dropped {l : ScriptLine} {g' : Game} (read : g.lineRead pass text = .ok (some l))
      (drops : g.progress.drops = true) (verb : l.verb ≠ .endif)
      (told : Told (g.passOver l.verb) g') : LineEnd pass text g g' none
  /-- The line makes no sense. -/
  | senseless {l : ScriptLine} {f : Fault} {h : Game} (read : g.lineRead pass text = .ok (some l))
      (taken : g.progress.drops = true → l.verb = .endif) (told : Told g h)
      (meaning : (g.lineMeaning l).outcome = .error f) :
      LineEnd pass text g ((hear (g.lineMeaning l).asides h).value.passOver l.verb) (some f)
  /-- The command of the line cannot be registered. -/
  | refused {l : ScriptLine} {f : Fault} {h : Game} {c : Command}
      (read : g.lineRead pass text = .ok (some l))
      (taken : g.progress.drops = true → l.verb = .endif) (told : Told g h)
      (meaning : (g.lineMeaning l).outcome = .ok c)
      (registered : ((hear (g.lineMeaning l).asides h).value.register c).value.fault = some f) :
      LineEnd pass text g ((hear (g.lineMeaning l).asides h).value.passOver l.verb) (some f)
  /-- The command of the line is registered. -/
  | done {l : ScriptLine} {h g' : Game} {c : Command} (read : g.lineRead pass text = .ok (some l))
      (taken : g.progress.drops = true → l.verb = .endif) (told : Told g h)
      (meaning : (g.lineMeaning l).outcome = .ok c)
      (registered : ((hear (g.lineMeaning l).asides h).value.register c).value = .done g') :
      LineEnd pass text g g' none

theorem lineMeaning_of_told {g h : Game} (told : Told g h) (l : ScriptLine) :
    h.lineMeaning l = g.lineMeaning l := by
  obtain ⟨d, r, _, rfl⟩ := told
  rfl

/-- What comes of a line once it is read: it makes no sense, its command is refused, or its
    command is registered. -/
theorem carryOut_cases (l : ScriptLine) (g : Game) :
    let heard := (hear (g.lineMeaning l).asides g).value
    (∃ f, (g.lineMeaning l).outcome = .error f ∧
      (g.carryOut l).value = .failed f (heard.passOver l.verb)) ∨
    ∃ c, (g.lineMeaning l).outcome = .ok c ∧
      ((∃ f, (heard.register c).value.fault = some f ∧
        (g.carryOut l).value = .failed f (heard.passOver l.verb)) ∨
      ∃ g', (heard.register c).value = .done g' ∧ (g.carryOut l).value = .done g') := by
  intro heard
  unfold carryOut
  simp only [Logged.value_bind]
  cases hr : (g.lineMeaning l).outcome with
  | error f =>
    have meant : (Command.resolve g.world g.script l).outcome = .error f := hr
    rw [meant]
    exact .inl ⟨f, rfl, rfl⟩
  | ok c =>
    have meant : (Command.resolve g.world g.script l).outcome = .ok c := hr
    rw [meant]
    refine .inr ⟨c, rfl, ?_⟩
    cases hc : (heard.register c).value.fault with
    | some f =>
      have refused : ((hear (Command.resolve g.world g.script l).asides g).value.register c).value.fault =
        some f := hc
      -- a command that is refused hands back the game it was given
      have left := register_left refused
      simp only [Logged.value_bind, refused, left]
      exact .inl ⟨f, rfl, rfl⟩
    | none =>
      have done : ((hear (Command.resolve g.world g.script l).asides g).value.register c).value.fault =
        none := hc
      simp only [Logged.value_bind, done]
      exact .inr ⟨_, Attempt.eq_done hc, rfl⟩

theorem carryOut_ends {pass : Pass} {text : List Char} {g h : Game} {l : ScriptLine}
    (read : g.lineRead pass text = .ok (some l))
    (taken : g.progress.drops = true → l.verb = .endif) (told : Told g h) :
    LineEnd pass text g (h.carryOut l).value.left (h.carryOut l).value.fault := by
  -- what was said while reading does not change what the line means
  have cases := carryOut_cases l h
  rw [lineMeaning_of_told told l] at cases
  obtain ⟨f, meaning, end_⟩ | ⟨c, meaning, ⟨f, refused, end_⟩ | ⟨g', done, end_⟩⟩ := cases
  · rw [end_]
    exact .senseless read taken told meaning
  · rw [end_]
    exact .refused read taken told meaning refused
  · rw [end_]
    exact .done read taken told meaning done

theorem passOver_told {v : Verb} {g h : Game} (told : Told g h) :
    Told (g.passOver v) (h.passOver v) := by
  obtain ⟨d, r, hr, rfl⟩ := told
  unfold passOver
  split
  · exact ⟨d, r, hr, rfl⟩
  · exact ⟨d, r, hr, rfl⟩

theorem Told.of_passOver {v : Verb} {g g' : Game} (told : Told (g.passOver v) g') :
    ∃ h, Told g h ∧ g' = h.passOver v := by
  obtain ⟨d, r, hr, rfl⟩ := told
  refine ⟨_, ⟨d, r, hr, rfl⟩, ?_⟩
  unfold passOver
  split <;> rfl

/-- Nothing comes of a line: the game has heard of it, and may have passed it over. -/
inductive Idle (g : Game) : Game → Prop where
  | heard {h : Game} (heard : Heard g h) : Idle g h
  | passedOver {h : Game} (v : Verb) (heard : Heard g h) : Idle g (h.passOver v)

/-- A line is idle, or its command is registered in a game that has heard of it. -/
theorem LineEnd.idle_or_registered {pass : Pass} {text : List Char} {g g' : Game}
    {f : Option Fault} (h : LineEnd pass text g g' f) : Idle g g' ∨
      ∃ l c k, g.lineRead pass text = .ok (some l) ∧
        (g.progress.drops = true → l.verb = .endif) ∧ (g.lineMeaning l).outcome = .ok c ∧
        Heard g k ∧ (k.register c).value = .done g' := by
  cases h with
  | unread _ told => exact .inl (.heard told.heard)
  | skipped _ told => exact .inl (.heard told.heard)
  | dropped _ _ _ told =>
    obtain ⟨_, before, rfl⟩ := told.of_passOver
    exact .inl (.passedOver _ before.heard)
  | senseless _ _ told _ => exact .inl (.passedOver _ (told.heard.trans (hear_heard _ _)))
  | refused _ _ told _ _ => exact .inl (.passedOver _ (told.heard.trans (hear_heard _ _)))
  | done read taken told meaning registered =>
    exact .inr ⟨_, _, _, read, taken, meaning, told.heard.trans (hear_heard _ _), registered⟩

/-- Outside of dropped blocks, what comes of a line that makes sense is what comes of registering
    its command. -/
theorem LineEnd.of_meaning {pass : Pass} {text : List Char} {g g' : Game} {f : Option Fault}
    {l : ScriptLine} {c : Command} (h : LineEnd pass text g g' f)
    (taken : g.progress.drops = false) (read : g.lineRead pass text = .ok (some l))
    (meaning : (g.lineMeaning l).outcome = .ok c) :
    ∃ k, Told g k ∧
      let heard := (hear (g.lineMeaning l).asides k).value
      ((∃ e, f = some e ∧ (heard.register c).value.fault = some e ∧ g' = heard.passOver l.verb) ∨
        f = none ∧ (heard.register c).value = .done g') := by
  cases h with
  | unread unreadable _ =>
    rw [read] at unreadable
    cases unreadable
  | skipped foreign _ =>
    rw [read] at foreign
    cases foreign
  | dropped _ drops _ _ =>
    rw [taken] at drops
    cases drops
  | senseless same _ _ nonsense =>
    obtain rfl := Option.some.inj (Except.ok.inj (read.symm.trans same))
    rw [meaning] at nonsense
    cases nonsense
  | @refused _ e k _ same _ told meant refused =>
    obtain rfl := Option.some.inj (Except.ok.inj (read.symm.trans same))
    obtain rfl := Except.ok.inj (meaning.symm.trans meant)
    exact ⟨k, told, .inl ⟨e, rfl, refused, rfl⟩⟩
  | @done _ k _ _ same _ told meant done =>
    obtain rfl := Option.some.inj (Except.ok.inj (read.symm.trans same))
    obtain rfl := Except.ok.inj (meaning.symm.trans meant)
    exact ⟨k, told, .inr ⟨rfl, done⟩⟩

theorem remarkedOn_told (l : ScriptLine) (g : Game) : Told g (g.remarkedOn l) := by
  unfold remarkedOn
  split
  · exact report_told (by simp) g
  · exact Told.refl g

theorem takeLine_ends {pass : Pass} {text : List Char} {g h : Game} {l : ScriptLine}
    (read : g.lineRead pass text = .ok (some l)) (told : Told g h) :
    LineEnd pass text g (h.takeLine l).value.left (h.takeLine l).value.fault := by
  have told : Told g (h.remarkedOn l) := told.trans (remarkedOn_told l h)
  have hd : (h.remarkedOn l).progress.drops = g.progress.drops := by
    obtain ⟨_, _, _, hk⟩ := told
    rw [hk]
    rfl
  rw [takeLine_value, hd]
  split
  · rename_i hc
    simp only [ne_eq, decide_not, Bool.and_eq_true, Bool.not_eq_true', decide_eq_false_iff_not] at hc
    exact .dropped read hc.1 hc.2 ((passOver_told told).trans (report_told (by simp) _))
  · rename_i hc
    refine carryOut_ends read (fun hg => ?_) told
    exact Decidable.byContradiction fun hv => hc (by simp [hg, hv])

/-- A line ends in one of the six ways. -/
theorem scanLine_ends (pass : Pass) (text : List Char) (g : Game) :
    LineEnd pass text g (scanLine pass text g).value.left (scanLine pass text g).value.fault := by
  let r := ScriptLine.read g.progress.levelVersion pass text g.dice
  have rolled : Told g { g with dice := r.dice } := ⟨r.dice, [], by simp, by simp⟩
  have plain : ∀ a ∈ r.asides, a.Plain := ScriptLine.plain_read _ _ _ _
  have told : Told g (noted (r.asides.filterMap Aside.remark?) { g with dice := r.dice }) := by
    rw [← hear_of_plain _ _ plain]
    exact rolled.trans (hear_told _ _ plain)
  rw [scanLine_value]
  show LineEnd pass text g (afterReading _ (g.lineRead pass text)).left
    (afterReading _ (g.lineRead pass text)).fault
  cases hr : g.lineRead pass text with
  | error f => exact .unread hr told
  | ok o =>
    cases o with
    | none => exact .skipped hr told
    | some l => exact takeLine_ends hr told

/-! ## Lines in a row -/

/-- What each line keeps, all of them keep. -/
theorem loadLines_keeps {pass : Pass} {P : Game → Prop}
    (each : ∀ line g, P g → P (loadLine pass line g).value) (lines : List (Nat × List Char))
    {g : Game} (start : P g) : P (loadLines pass lines g).value := by
  induction lines generalizing g with
  | nil => exact start
  | cons line rest ih => exact ih (each line g start)

theorem loadLines_append (pass : Pass) (lines more : List (Nat × List Char)) (g : Game) :
    (loadLines pass (lines ++ more) g).value =
      (loadLines pass more (loadLines pass lines g).value).value := by
  induction lines generalizing g with
  | nil => rfl
  | cons line rest ih => exact ih (loadLine pass line g).value

/-- After the first lines there is one line more, or the lines have ended. -/
theorem loadLines_take_succ (pass : Pass) (lines : List (Nat × List Char)) (n : Nat) (g : Game) :
    (∃ line, lines[n]? = some line ∧ (loadLines pass (lines.take (n + 1)) g).value =
      (loadLine pass line (loadLines pass (lines.take n) g).value).value) ∨
    lines.length ≤ n ∧ (loadLines pass (lines.take (n + 1)) g).value =
      (loadLines pass (lines.take n) g).value := by
  cases here : lines[n]? with
  | none =>
    have ended := List.getElem?_eq_none_iff.1 here
    right
    refine ⟨ended, ?_⟩
    rw [List.take_of_length_le ended, List.take_of_length_le (Nat.le_succ_of_le ended)]
  | some line =>
    left
    refine ⟨line, rfl, ?_⟩
    rw [List.take_add_one, here, loadLines_append]
    rfl

end Game

end DungeonScript
