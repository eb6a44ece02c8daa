import DungeonScript.Proofs.Game.QuickTexts
import DungeonScript.Proofs.Game.Refusal

/-!
Deferral. On a line inside the block of a condition, and on one for which a reusable
command is announced, nothing happens to the world: an effect, a spawn or a tunneller is
put on its shelf, marked with the condition around the line and with the announcement, or
refused where the shelf is full (`register_of_waiting`). The verbs that prepare a level are
the exception. They act wherever they stand, and what they do is the setup order they come
to (`waiting_line_stores`).

A line waits as soon as some open block has a condition. If a block without one has been
opened inside it, nothing of the line is carried out at all; if not, the innermost block
has a condition, which is the one the line waits for (`defers_of_waits`).
-/

namespace DungeonScript

/-! ## Entries -/

namespace Command

/-- A command that changes the world once it is carried out, now or later. -/
def changesWorld : Command → Bool
  | .effect _ | .spawn _ | .tunneller _ => true
  | _ => false

def shelf : Command → Shelf
  | .spawn _ => .spawns
  | .tunneller _ => .tunnellers
  | _ => .effects

end Command

namespace Script

/-- Whether there is room for the entry that a command becomes. -/
def hasRoomFor (s : Script) : Command → Bool
  | .effect _ => s.effects.length < effectLimit
  | .spawn _ => s.spawns.length < spawnLimit
  | .tunneller _ => s.tunnellers.length < tunnellerLimit
  | _ => true

/-- The store with the entry that a command becomes, as a line at `p` stores it. -/
def withEntry (s : Script) (p : Progress) : Command → Script
  | .effect e => { s with effects := s.effects ++ [p.gate e] }
  | .spawn b => { s with spawns := s.spawns ++ [p.gate b] }
  | .tunneller t => { s with tunnellers := s.tunnellers ++ [p.gate t] }
  | _ => s

end Script

/-- The entry waits for the condition around the line, may fire again and again exactly if a
    reusable command is announced for the line, and has not fired. -/
structure Progress.Marks {α : Type} (p : Progress) (e : Gated α) : Prop where
  condition : e.condition = p.condition?
  reusable : e.use.reusable = p.reusable
  unspent : e.use.spent = false

/-- The entries of `s` are kept, and those beyond them in `s'` carry the marks of the line. -/
structure Progress.Queues (p : Progress) (s s' : Script) : Prop where
  spawns : ∃ new, s'.spawns = s.spawns ++ new ∧ ∀ e ∈ new, p.Marks e
  tunnellers : ∃ new, s'.tunnellers = s.tunnellers ++ new ∧ ∀ e ∈ new, p.Marks e
  effects : ∃ new, s'.effects = s.effects ++ new ∧ ∀ e ∈ new, p.Marks e

namespace Progress

theorem gate_marks {α : Type} (p : Progress) (item : α) : p.Marks (p.gate item) := by
  unfold gate
  cases announced : p.reusable with
  | true => exact ⟨rfl, announced.symm, rfl⟩
  | false => exact ⟨rfl, announced.symm, rfl⟩

theorem Adds.marked {α : Type} {p : Progress} {xs xs' : List (Gated α)}
    (h : p.Adds p.gate xs xs') : ∃ new, xs' = xs ++ new ∧ ∀ e ∈ new, p.Marks e := by
  obtain ⟨new, rfl, _⟩ := h
  refine ⟨new.map p.gate, rfl, fun e he => ?_⟩
  obtain ⟨item, _, rfl⟩ := List.mem_map.1 he
  exact p.gate_marks item

end Progress

theorem Stores.queues {p : Progress} {s s' : Script} (h : Stores p s s') : p.Queues s s' :=
  ⟨h.spawns.marked, h.tunnellers.marked, h.effects.marked⟩

/-! ## Lines that wait -/

/-- Some open block has a condition, or a reusable command is announced for the line. -/
def Progress.Waits (p : Progress) : Prop :=
  (∃ id, .registered id ∈ p.blocks) ∨ p.reusable = true

theorem Progress.defers_of_waits {p : Progress} (waits : p.Waits) (taken : p.drops = false) :
    p.defers = true := by
  unfold Progress.defers
  rcases waits with ⟨id, open_⟩ | announced
  · have inside : p.condition?.isSome = true := by
      cases hb : p.blocks with
      | nil =>
        rw [hb] at open_
        cases open_
      | cons b rest =>
        cases b with
        | registered innermost => simp [Progress.condition?, hb]
        | unregistered => simp [Progress.drops, hb] at taken
    rw [inside]
    rfl
  · rw [announced, Bool.or_true]

namespace Game

theorem Heard.waits {g h : Game} (heard : Heard g h) (waits : g.progress.Waits) :
    h.progress.Waits := by
  obtain ⟨_, _, _, rfl⟩ := heard
  exact waits

theorem withScript_shelve {α : Type} (g : Game) (shelf : Shelf) (xs : List α) (x : α)
    (put : List α → Script) (kept : put xs = g.script) :
    g.withScript ((shelve shelf xs x).map put) =
      if xs.length < shelf.limit then .done { g with script := put (xs ++ [x]) }
      else .failed (.full shelf) g := by
  rcases shelve_cases shelf xs x with ⟨room, stored⟩ | full
  · rw [stored, if_pos room]
    rfl
  · have noRoom : ¬xs.length < shelf.limit := fun room => by
      rw [shelve, if_neg (Nat.not_le.2 room)] at full
      exact Attempt.failed_ne_done full.symm
    rw [full, if_neg noRoom]
    show Attempt.failed _ { g with script := put xs } = _
    rw [kept]

/-- On a line that waits, a command that changes the world is stored, or refused for want of
    room. -/
theorem register_of_waiting {g : Game} {c : Command} (defers : g.progress.defers = true)
    (changes : c.changesWorld = true) : (g.register c).value =
      if g.script.hasRoomFor c then .done { g with script := g.script.withEntry g.progress c }
      else .failed (.full c.shelf) g := by
  cases c with
  | effect e =>
    simp only [register, defers, if_true, Script.addEffect, Logged.value_pure, Script.hasRoomFor,
      decide_eq_true_eq]
    exact withScript_shelve g .effects _ _ (fun effects => { g.script with effects }) rfl
  | spawn b =>
    simp only [register, defers, if_true, Script.addSpawn, Logged.value_pure, Script.hasRoomFor,
      decide_eq_true_eq]
    exact withScript_shelve g .spawns _ _ (fun spawns => { g.script with spawns }) rfl
  | tunneller t =>
    simp only [register, defers, if_true, Script.addTunneller, Logged.value_pure,
      Script.hasRoomFor, decide_eq_true_eq]
    exact withScript_shelve g .tunnellers _ _ (fun tunnellers => { g.script with tunnellers }) rfl
  | _ => cases changes

/-- Registered on a line that waits, only a setup order changes the world. -/
theorem Registered.world_of_waiting {c : Command} {g g' : Game} (done : Registered g c g')
    (defers : g.progress.defers = true) : g'.world = g.world ∨
      ∃ order, c = .setup order ∧ (order.apply g.world).value = .done g'.world := by
  cases done with
  | effectDone acts =>
    rw [acts] at defers
    cases defers
  | spawnDone acts =>
    rw [acts] at defers
    cases defers
  | tunnellerDone acts =>
    rw [acts] at defers
    cases defers
  | @setUp order w done => exact .inr ⟨order, rfl, done⟩
  | _ => exact .inl rfl

/-- A line of the full pass comes to a setup order only by a verb that prepares the level. -/
theorem prepares_of_setup {text : List Char} {g : Game} {l : ScriptLine} {order : Setup}
    (read : g.lineRead .full text = .ok (some l))
    (meaning : (g.lineMeaning l).outcome = .ok (.setup order)) : l.verb.prepares = true := by
  have taken : Pass.full.takes l.verb = true := (ScriptLine.leading?_of_read read).2.2
  rcases Command.resolve_setup g.world g.script l _ meaning order rfl with prepares | swap
  · exact prepares
  · rw [swap] at taken
    cases taken

/-- The world after a line that waits. -/
theorem LineEnd.world_of_waits {text : List Char} {g g' : Game} {f : Option Fault}
    (h : LineEnd .full text g g' f) (waits : g.progress.Waits) : g'.world = g.world ∨
      ∃ l order, g.lineRead .full text = .ok (some l) ∧ l.verb.prepares = true ∧
        (g.lineMeaning l).outcome = .ok (.setup order) ∧
        (order.apply g.world).value = .done g'.world := by
  rcases h.idle_or_registered with idle | ⟨l, c, k, read, taken, meaning, heard, registered⟩
  · exact .inl idle.world
  · have done := register_registered registered
    cases drops : g.progress.drops with
    | true =>
      obtain rfl := command_of_endif (taken drops) meaning
      cases done with
      | blockClosed _ => exact .inl heard.spared.world
    | false =>
      have defers := Progress.defers_of_waits (heard.waits waits) (Heard.drops heard |>.trans drops)
      rcases done.world_of_waiting defers with same | ⟨order, rfl, applied⟩
      · exact .inl (same.trans heard.spared.world)
      · rw [heard.spared.world] at applied
        exact .inr ⟨l, order, read, prepares_of_setup read meaning, meaning, applied⟩

theorem hasRoomFor_setQuickTexts (s : Script) (texts : List (Nat × String)) (c : Command) :
    (s.setQuickTexts texts).hasRoomFor c = s.hasRoomFor c := by
  induction texts generalizing s with
  | nil => rfl
  | cons t rest ih =>
    obtain ⟨quickTexts, set⟩ := s.setQuickText_eq t.1 t.2
    rw [Script.setQuickTexts, List.foldl_cons]
    refine (ih _).trans ?_
    rw [set]
    cases c <;> rfl

theorem Heard.withEntry {g h : Game} (heard : Heard g h) (s : Script) (c : Command) :
    s.withEntry h.progress c = s.withEntry g.progress c := by
  obtain ⟨_, _, _, rfl⟩ := heard
  cases c <;> rfl

/-- What a line that waits makes of a command that would change the world. -/
theorem LineEnd.entry_of_waits {text : List Char} {g g' : Game} {f : Option Fault}
    (h : LineEnd .full text g g' f) (waits : g.progress.Waits) {l : ScriptLine} {c : Command}
    (read : g.lineRead .full text = .ok (some l)) (taken : g.progress.drops = false)
    (meaning : (g.lineMeaning l).outcome = .ok c) (changes : c.changesWorld = true) :
    let heard := g.script.setQuickTexts l.quickText?.toList
    if g.script.hasRoomFor c then g'.script = heard.withEntry g.progress c ∧ f = none
    else g'.script = heard ∧ f = some (.full c.shelf) := by
  intro heard
  -- the line is registered in a game that has heard what was said of it
  have registers : ∀ k, Told g k →
      let k' := (hear (g.lineMeaning l).asides k).value
      k'.script = heard ∧ (k'.register c).value = if g.script.hasRoomFor c
        then .done { k' with script := heard.withEntry g.progress c }
        else .failed (.full c.shelf) k' := by
    intro k told k'
    have hears : Heard g k' := told.heard.trans (hear_heard _ _)
    have script : k'.script = heard := hear_lineMeaning told l
    have drops : k'.progress.drops = false := (Heard.drops hears).trans taken
    refine ⟨script, ?_⟩
    rw [register_of_waiting (Progress.defers_of_waits (hears.waits waits) drops) changes,
      hears.withEntry, script, hasRoomFor_setQuickTexts]
  obtain ⟨k, told, ends⟩ := h.of_meaning taken read meaning
  obtain ⟨script, registered⟩ := registers k told
  rcases ends with ⟨e, rfl, refused, rfl⟩ | ⟨rfl, done⟩
  · rw [registered] at refused
    split at refused
    · cases refused
    · obtain rfl := Option.some.inj refused
      rename_i full
      rw [if_neg full, passOver_script]
      exact ⟨script, rfl⟩
  · rw [registered] at done
    split at done
    · obtain rfl := Attempt.done_inj done
      rename_i room
      rw [if_pos room]
      exact ⟨rfl, rfl⟩
    · exact absurd done Attempt.failed_ne_done

/-- **A line that waits is stored.** Where a block with a condition is open, or a reusable
    command is announced for the line, no line of the full pass changes the world, but for a
    setup order that comes of one of the verbs which prepare the level. All entries the line
    adds carry its marks: the condition around the line, and that they may fire again exactly
    if the announcement was made. What a command outside of dropped blocks would do to the
    world becomes one such entry, and the line ends in a fault only if there is no room for
    it. -/
theorem waiting_line_stores (text : List Char) (g : Game) (waits : g.progress.Waits) :
    let end_ := (scanLine .full text g).value
    (end_.left.world = g.world ∨
      ∃ l order, g.lineRead .full text = .ok (some l) ∧ l.verb.prepares = true ∧
        (g.lineMeaning l).outcome = .ok (.setup order) ∧
        (order.apply g.world).value = .done end_.left.world) ∧
    g.progress.Queues g.script end_.left.script ∧
    ∀ l c, g.lineRead .full text = .ok (some l) → g.progress.drops = false →
      (g.lineMeaning l).outcome = .ok c → c.changesWorld = true →
      let heard := g.script.setQuickTexts l.quickText?.toList
      if g.script.hasRoomFor c then
        end_.left.script = heard.withEntry g.progress c ∧ end_.fault = none
      else end_.left.script = heard ∧ end_.fault = some (.full c.shelf) := by
  intro end_
  have ends := scanLine_ends .full text g
  refine ⟨ends.world_of_waits waits, ends.stores.queues, ?_⟩
  intro l c read taken meaning changes
  exact ends.entry_of_waits waits read taken meaning changes

/-- Inside a block that waits for money a flag is not set: to set it becomes the one entry
    of the store. -/
theorem waiting_line_stores_flag :
    let g := (loadLines .full [(1, "IF(PLAYER0,MONEY >= 100)".toList)] default).value
    let g' := (scanLine .full "SET_FLAG(PLAYER0,FLAG0,3)".toList g).value.left
    g'.world = g.world ∧ ∃ e, g'.script.effects = [e] ∧ e.condition = some 0 ∧ e.use = .once := by
  intro g g'
  have waits : g.progress.Waits := .inl ⟨0, by decide +kernel⟩
  obtain ⟨world, queues, _⟩ := waiting_line_stores "SET_FLAG(PLAYER0,FLAG0,3)".toList g waits
  constructor
  · rcases world with same | ⟨l, _, read, prepares, _⟩
    · exact same
    · have verb : ((g.lineRead .full "SET_FLAG(PLAYER0,FLAG0,3)".toList).toOption.bind id).map
          (·.verb) = some .setFlag := by decide +kernel
      rw [read] at verb
      have setsFlag : l.verb = .setFlag := Option.some.inj verb
      rw [setsFlag] at prepares
      cases prepares
  · obtain ⟨e, one⟩ : ∃ e, g'.script.effects = [e] :=
      List.length_eq_one_iff.1 (by decide +kernel)
    obtain ⟨new, added, marks⟩ := queues.effects
    have empty : g.script.effects = [] := by decide +kernel
    rw [empty, List.nil_append] at added
    have marked := marks e (added ▸ one ▸ List.mem_singleton_self e)
    refine ⟨e, one, marked.condition.trans (by decide +kernel), ?_⟩
    have once : e.use.reusable = false := marked.reusable.trans (by decide +kernel)
    show (⟨e.use.reusable, e.use.spent⟩ : Use) = ⟨false, false⟩
    rw [once, marked.unspent]

end Game

end DungeonScript
