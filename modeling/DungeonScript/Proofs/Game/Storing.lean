import DungeonScript.Proofs.Game.Line
import DungeonScript.Proofs.Game.Registered

/-!
What a line stores. Every shelf of the store but the parties only grows at its end
while a script is read, and what is added carries the marks of the line: its condition
is that of the innermost open block, it has not been asked or fired yet, and it may
fire again exactly if a reusable command was announced. A line inside a block whose
contents are dropped adds nothing. `Stores` says this of one line, shelf by shelf. What
becomes of the world comes of the commands alone (`CommandsKeep`).
-/

namespace DungeonScript

/-- `xs'` is `xs` with entries added at the end, made the way lines at `p` make them;
    inside a block whose contents are dropped there are none. -/
def Progress.Adds {α β : Type} (p : Progress) (make : β → α) (xs xs' : List α) : Prop :=
  ∃ new : List β, xs' = xs ++ new.map make ∧ (p.drops = true → new = [])

namespace Progress

variable {α β : Type} {p : Progress} {make : β → α} {xs : List α}

theorem Adds.none : p.Adds make xs xs := ⟨[], by simp, fun _ => rfl⟩

theorem Adds.one (x : β) (taken : p.drops = false) : p.Adds make xs (xs ++ [make x]) :=
  ⟨[x], rfl, fun h => by simp [taken] at h⟩

def opening (p : Progress) (asked : Selector × Test) : Condition :=
  ⟨p.condition?, asked.1, asked.2, .unasked⟩

end Progress

/-- `s'` is `s` after a line read at `p` has stored what it has to store. -/
structure Stores (p : Progress) (s s' : Script) : Prop where
  conditions : p.Adds p.opening s.conditions s'.conditions
  spawns : p.Adds p.gate s.spawns s'.spawns
  tunnellers : p.Adds p.gate s.tunnellers s'.tunnellers
  effects : p.Adds p.gate s.effects s'.effects
  wins : p.Adds (fun id : { id // p.condition? = some id } => id.val) s.wins s'.wins
  losses : p.Adds (fun id : { id // p.condition? = some id } => id.val) s.losses s'.losses

namespace Stores

open Progress

theorem refl (p : Progress) (s : Script) : Stores p s s :=
  ⟨Adds.none, Adds.none, Adds.none, Adds.none, Adds.none, Adds.none⟩

theorem congr {p : Progress} {s s' t t' : Script} (h : Stores p s s')
    (hs : ∃ q ps, t = { s with quickTexts := q, parties := ps })
    (ht : ∃ q ps, t' = { s' with quickTexts := q, parties := ps }) : Stores p t t' := by
  obtain ⟨_, _, rfl⟩ := hs
  obtain ⟨_, _, rfl⟩ := ht
  exact ⟨h.conditions, h.spawns, h.tunnellers, h.effects, h.wins, h.losses⟩

end Stores

namespace Game

open Progress

theorem lineMeaning_of_endif {g : Game} {l : ScriptLine} (h : l.verb = .endif) :
    g.lineMeaning l = pure .endif := by
  simp only [lineMeaning, Command.resolve, h]

theorem command_of_endif {g : Game} {l : ScriptLine} {c : Command} (h : l.verb = .endif)
    (meaning : (g.lineMeaning l).outcome = .ok c) : c = .endif := by
  rw [lineMeaning_of_endif h] at meaning
  exact (Except.ok.inj meaning).symm

/-- Outside of dropped blocks, a registered command stores at most one entry. -/
theorem Registered.stores {c : Command} {g g' : Game} (h : Registered g c g')
    (taken : g.progress.drops = false) : Stores g.progress g.script g'.script := by
  have same := Stores.refl g.progress g.script
  cases h with
  | @conditionOpened players test _ =>
    exact { same with conditions := Adds.one (players, test) taken }
  | @effectStored e _ _ => exact { same with effects := Adds.one e taken }
  | @spawnStored s _ _ => exact { same with spawns := Adds.one s taken }
  | @tunnellerStored t _ _ => exact { same with tunnellers := Adds.one t taken }
  | @winAdded id condition _ =>
    exact { same with
      wins := Adds.one (⟨id, condition⟩ : { id // g.progress.condition? = some id }) taken }
  | @lossAdded id condition _ =>
    exact { same with
      losses := Adds.one (⟨id, condition⟩ : { id // g.progress.condition? = some id }) taken }
  | partyCreated _ _ => exact same.congr ⟨_, _, rfl⟩ ⟨_, _, rfl⟩
  | memberAdded _ _ _ => exact same.congr ⟨_, _, rfl⟩ ⟨_, _, rfl⟩
  | _ => exact same

theorem Registered.script_of_endif {g g' : Game} (h : Registered g .endif g') :
    g'.script = g.script := by
  cases h with
  | blockClosed _ => rfl

theorem passOver_script (v : Verb) (g : Game) : (g.passOver v).script = g.script := by
  unfold passOver
  split <;> rfl

/-- An idle line changes nothing of the store but quick texts. -/
theorem Idle.script {g g' : Game} (idle : Idle g g') :
    ∃ quickTexts, g'.script = { g.script with quickTexts } := by
  cases idle with
  | heard heard =>
    obtain ⟨_, _, quickTexts, rfl⟩ := heard
    exact ⟨quickTexts, rfl⟩
  | passedOver v heard =>
    obtain ⟨_, _, quickTexts, rfl⟩ := heard
    exact ⟨quickTexts, passOver_script v _⟩

theorem passOver_world (v : Verb) (g : Game) : (g.passOver v).world = g.world := by
  unfold passOver
  split <;> rfl

theorem Told.script {g h : Game} (told : Told g h) : h.script = g.script := by
  obtain ⟨_, _, _, rfl⟩ := told
  rfl

theorem Heard.stores {g h : Game} (heard : Heard g h) : Stores g.progress g.script h.script := by
  obtain ⟨_, _, _, rfl⟩ := heard
  exact (Stores.refl _ _).congr ⟨_, _, rfl⟩ ⟨_, _, rfl⟩

/-- What a command stores, said of the game before the line was made sense of. -/
theorem Registered.stores_of_heard {c : Command} {g h g' : Game} (heard : Heard g h)
    (taken : g.progress.drops = true → c = .endif) (done : Registered h c g') :
    Stores g.progress g.script g'.script := by
  obtain ⟨dice, diagnostics, quickTexts, rfl⟩ := heard
  cases hd : g.progress.drops with
  | false =>
    have hs := done.stores hd
    exact Stores.congr ⟨hs.conditions, hs.spawns, hs.tunnellers, hs.effects, hs.wins, hs.losses⟩
      ⟨g.script.quickTexts, g.script.parties, rfl⟩ ⟨_, _, rfl⟩
  | true =>
    obtain rfl := taken hd
    rw [done.script_of_endif]
    exact (Stores.refl _ _).congr ⟨_, _, rfl⟩ ⟨_, _, rfl⟩

theorem LineEnd.stores {pass : Pass} {text : List Char} {g g' : Game} {f : Option Fault}
    (h : LineEnd pass text g g' f) : Stores g.progress g.script g'.script := by
  rcases h.idle_or_registered with idle | ⟨l, c, k, _, taken, meaning, heard, registered⟩
  · cases idle with
    | heard heard => exact heard.stores
    | passedOver v heard =>
      rw [passOver_script]
      exact heard.stores
  · exact Registered.stores_of_heard heard (fun drops => command_of_endif (taken drops) meaning)
      (register_registered registered)

theorem loadLine_value (pass : Pass) (line : Nat × List Char) (g : Game) :
    let end_ := (scanLine pass line.2 { g with progress := g.progress.atLine line.1 }).value
    (loadLine pass line g).value = match end_.2 with
      | some f => (end_.1.report (.fault f)).value
      | none => end_.1 := by
  unfold loadLine
  rw [Logged.value_bind]
  generalize (scanLine pass line.2 _).value = r
  obtain ⟨g', f⟩ := r
  cases f <;> rfl

theorem loadLine_heard (pass : Pass) (line : Nat × List Char) (g : Game) :
    Heard (scanLine pass line.2 { g with progress := g.progress.atLine line.1 }).value.1
      (loadLine pass line g).value := by
  rw [loadLine_value]
  split
  · exact report_heard _ _
  · exact Heard.refl _

theorem loadLine_script (pass : Pass) (line : Nat × List Char) (g : Game) :
    (loadLine pass line g).value.script =
      (scanLine pass line.2 { g with progress := g.progress.atLine line.1 }).value.1.script := by
  rw [loadLine_value]
  split <;> rfl

/-- A line stores entries with the marks of the line, or none. -/
theorem loadLine_stores (pass : Pass) (line : Nat × List Char) (g : Game) :
    Stores (g.progress.atLine line.1) g.script (loadLine pass line g).value.script := by
  rw [loadLine_script]
  exact (scanLine_ends pass line.2 { g with progress := g.progress.atLine line.1 }).stores

/-! ## What becomes of the world

A relation that leads from the world before a command to the one after it, whatever the command
is, leads from the world before a level load to the one after it. -/

theorem Heard.world {g h : Game} (heard : Heard g h) : h.world = g.world := by
  obtain ⟨_, _, _, rfl⟩ := heard
  rfl

theorem Idle.world {g g' : Game} (idle : Idle g g') : g'.world = g.world := by
  cases idle with
  | heard heard => exact heard.world
  | passedOver v heard => exact (passOver_world v _).trans heard.world

theorem reportIf_heard (c : Bool) (r : Remark) (g : Game) : Heard g (g.reportIf c r).value := by
  cases c with
  | true => exact report_heard r g
  | false => exact Heard.refl g

theorem sumUp_heard (g : Game) : Heard g g.sumUp.value :=
  ((reportIf_heard _ _ _).trans (reportIf_heard _ _ _)).trans (report_heard _ _)

/-- No command gets out of a relation between worlds. -/
structure CommandsKeep (R : World → World → Prop) : Prop where
  refl : ∀ w, R w w
  trans : ∀ {a b c}, R a b → R b c → R a c
  command : ∀ {c : Command} {g g' : Game}, Registered g c g' → R g.world g'.world

namespace CommandsKeep

variable {R : World → World → Prop}

theorem line (keep : CommandsKeep R) {pass : Pass} {text : List Char} {g g' : Game}
    {f : Option Fault} (h : LineEnd pass text g g' f) : R g.world g'.world := by
  rcases h.idle_or_registered with idle | ⟨_, _, _, _, _, _, heard, registered⟩
  · rw [idle.world]
    exact keep.refl _
  · rw [← heard.world]
    exact keep.command (register_registered registered)

theorem loadLines (keep : CommandsKeep R) (pass : Pass) (lines : List (Nat × List Char))
    (g : Game) : R g.world (loadLines pass lines g).value.world := by
  refine loadLines_keeps (P := fun h => R g.world h.world) ?_ lines (keep.refl _)
  intro line h before
  let h' := { h with progress := h.progress.atLine line.1 }
  have step : R h'.world (scanLine pass line.2 h').value.left.world :=
    keep.line (scanLine_ends pass line.2 h')
  rw [(loadLine_heard pass line h).world]
  exact keep.trans before step

theorem preload (keep : CommandsKeep R) (text : String) (g : Game) :
    R g.world (g.preload text).value.world :=
  keep.loadLines .preload (scriptLines text)
    { g with progress := .start, script := g.script.clearQuickTexts }

theorem load (keep : CommandsKeep R) (cleared : ∀ w, R w w.forNewLevel) (text : String)
    (g : Game) : R g.world (g.load text).value.world := by
  have same : (g.load text).value.world =
      (Game.loadLines .full (scriptLines text) g.cleared).value.world := (sumUp_heard _).world
  rw [same]
  exact keep.trans (cleared g.world) (keep.loadLines .full _ g.cleared)

theorem loadLevel (keep : CommandsKeep R) (cleared : ∀ w, R w w.forNewLevel) (text : String)
    (g : Game) : R g.world (g.loadLevel text).value.world :=
  keep.trans (keep.preload text g) (keep.load cleared text _)

end CommandsKeep

end Game

end DungeonScript
