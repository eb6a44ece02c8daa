import DungeonScript.Proofs.Game.Storing

/-!
Nesting. At every point of the full pass the open blocks are, from the innermost out,
some blocks without a condition and then some with one; the conditions of the latter
are numbered downwards, all registered, and each has the next one as its parent
(`Stacked`). A line keeps this whatever it is (`loadLine_wellNested`): an opener that is
registered names the innermost block as its parent, every other opener only adds a
block without a condition, and inside such a block nothing is registered.

It follows that what a line stores hangs on the innermost open block, and that the
parents of its condition are exactly the blocks open on that line (`blocks_nest`).
-/

namespace DungeonScript

/-! ## Chains of parents -/

/-- Going from `gate` to its parent, to the parent of that and so on meets exactly the
    conditions `ids`. -/
def ParentChain (conditions : List Condition) : Option Nat → List Nat → Prop
  | gate, [] => gate = none
  | gate, id :: rest =>
    gate = some id ∧ ∃ c, conditions[id]? = some c ∧ ParentChain conditions c.parent rest

namespace ParentChain

variable {conditions : List Condition}

theorem gate_eq_head? {gate : Option Nat} {ids : List Nat} (h : ParentChain conditions gate ids) :
    gate = ids.head? := by
  cases ids with
  | nil => exact h
  | cons id rest => exact h.1

/-- The chain from a gate is one list. -/
theorem unique {gate : Option Nat} {ids ids' : List Nat} (h : ParentChain conditions gate ids)
    (h' : ParentChain conditions gate ids') : ids = ids' := by
  induction ids generalizing gate ids' with
  | nil =>
    cases ids' with
    | nil => rfl
    | cons id' rest' =>
      rw [show gate = none from h] at h'
      cases h'.1
  | cons id rest ih =>
    cases ids' with
    | nil =>
      rw [show gate = none from h'] at h
      cases h.1
    | cons id' rest' =>
      obtain ⟨hg, c, hc, hr⟩ := h
      obtain ⟨hg', c', hc', hr'⟩ := h'
      obtain rfl := Option.some.inj (hg.symm.trans hg')
      obtain rfl := Option.some.inj (hc.symm.trans hc')
      rw [ih hr hr']

theorem append (more : List Condition) {gate : Option Nat} {ids : List Nat}
    (h : ParentChain conditions gate ids) : ParentChain (conditions ++ more) gate ids := by
  induction ids generalizing gate with
  | nil => exact h
  | cons id rest ih =>
    obtain ⟨hg, c, hc, hr⟩ := h
    have hid : id < conditions.length := (List.getElem?_eq_some_iff.1 hc).1
    refine ⟨hg, c, ?_, ih hr⟩
    rw [List.getElem?_append_left hid, hc]

end ParentChain

/-! ## The open blocks -/

/-- The open blocks, innermost first: `dropped` blocks without a condition, then the
    blocks of the conditions `ids`. -/
structure Stacked (conditions : List Condition) (blocks : List Block) (dropped : Nat)
    (ids : List Nat) : Prop where
  blocks : blocks = List.replicate dropped .unregistered ++ ids.map .registered
  descending : ids.Pairwise (· > ·)
  bound : ∀ id ∈ ids, id < conditions.length
  chain : ParentChain conditions ids.head? ids

namespace Stacked

variable {conditions : List Condition} {p : Progress} {dropped : Nat} {ids : List Nat}

theorem nil (conditions : List Condition) : Stacked conditions [] 0 [] :=
  ⟨rfl, List.Pairwise.nil, fun _ h => absurd h List.not_mem_nil, rfl⟩

theorem dropped_eq_zero (h : Stacked conditions p.blocks dropped ids) (hd : p.drops = false) :
    dropped = 0 := by
  cases dropped with
  | zero => rfl
  | succ n => simp [Progress.drops, h.blocks, List.replicate_succ] at hd

theorem condition?_eq (h : Stacked conditions p.blocks 0 ids) : p.condition? = ids.head? := by
  have hb := h.blocks
  cases ids with
  | nil => simp_all [Progress.condition?]
  | cons id rest => simp_all [Progress.condition?]

theorem drop {blocks : List Block} (h : Stacked conditions blocks dropped ids) :
    Stacked conditions (.unregistered :: blocks) (dropped + 1) ids :=
  ⟨by rw [h.blocks, List.replicate_succ, List.cons_append], h.descending, h.bound, h.chain⟩

/-- A block with a condition opens only where no block is dropped; the condition is
    new and has the innermost block as its parent. -/
theorem openBlock {blocks : List Block} {c : Condition} (h : Stacked conditions blocks 0 ids)
    (hc : c.parent = ids.head?) :
    Stacked (conditions ++ [c]) (.registered conditions.length :: blocks) 0
      (conditions.length :: ids) where
  blocks := by rw [h.blocks]; rfl
  descending := List.pairwise_cons.2 ⟨h.bound, h.descending⟩
  bound := by
    intro id hid
    rw [List.length_append, List.length_singleton]
    rcases List.mem_cons.1 hid with rfl | hid
    · exact Nat.lt_succ_self _
    · exact Nat.lt_succ_of_lt (h.bound id hid)
  chain := by
    refine ⟨rfl, c, List.getElem?_concat_length, ?_⟩
    rw [hc]
    exact h.chain.append [c]

theorem close {b : Block} {rest : List Block} (h : Stacked conditions (b :: rest) dropped ids) :
    ∃ dropped' ids', Stacked conditions rest dropped' ids' := by
  have hb := h.blocks
  cases dropped with
  | succ n =>
    rw [List.replicate_succ, List.cons_append] at hb
    exact ⟨n, ids, ⟨(List.cons.inj hb).2, h.descending, h.bound, h.chain⟩⟩
  | zero =>
    cases ids with
    | nil => cases hb
    | cons id outer =>
      -- the chain goes on with the parent of `id`, which is the next block outwards
      obtain ⟨_, c, _, outerChain⟩ := h.chain
      refine ⟨0, outer, (List.cons.inj hb).2, (List.pairwise_cons.1 h.descending).2, ?_, ?_⟩
      · exact fun j hj => h.bound j (List.mem_cons_of_mem id hj)
      · rw [← outerChain.gate_eq_head?]
        exact outerChain

end Stacked

namespace Game

/-- The open blocks of a game are nested as its conditions are. -/
def WellNested (g : Game) : Prop :=
  ∃ dropped ids, Stacked g.script.conditions g.progress.blocks dropped ids

theorem wellNested_of_heard {g h : Game} (heard : Heard g h) (nested : g.WellNested) :
    h.WellNested := by
  obtain ⟨_, _, _, rfl⟩ := heard
  exact nested

theorem Heard.drops {g h : Game} (heard : Heard g h) : h.progress.drops = g.progress.drops := by
  obtain ⟨_, _, _, rfl⟩ := heard
  rfl

theorem passOver_wellNested (v : Verb) {g : Game} (nested : g.WellNested) :
    (g.passOver v).WellNested := by
  unfold passOver
  split
  · obtain ⟨dropped, ids, h⟩ := nested
    exact ⟨dropped + 1, ids, h.drop⟩
  · exact nested

/-- Every command keeps the blocks nested; inside a dropped block only an `ENDIF` comes
    to be registered. -/
theorem Registered.wellNested {c : Command} {g g' : Game} (done : Registered g c g')
    (taken : g.progress.drops = true → c = .endif) (nested : g.WellNested) : g'.WellNested := by
  cases done with
  | conditionOpened _ =>
    obtain ⟨dropped, ids, h⟩ := nested
    -- had a block been dropped, the command would be an `ENDIF`
    have hd : g.progress.drops = false := eq_false_of_ne_true fun hd => nomatch taken hd
    obtain rfl := h.dropped_eq_zero hd
    exact ⟨0, _, h.openBlock h.condition?_eq⟩
  | blockClosed hb =>
    obtain ⟨dropped, ids, h⟩ := nested
    rw [hb] at h
    exact h.close
  -- no other command touches the blocks or the conditions
  | _ => exact nested

theorem LineEnd.wellNested {pass : Pass} {text : List Char} {g g' : Game} {f : Option Fault}
    (h : LineEnd pass text g g' f) (nested : g.WellNested) : g'.WellNested := by
  rcases h.idle_or_registered with idle | ⟨l, c, k, _, taken, meaning, heard, registered⟩
  · cases idle with
    | heard heard => exact wellNested_of_heard heard nested
    | passedOver v heard => exact passOver_wellNested v (wellNested_of_heard heard nested)
  · refine (register_registered registered).wellNested (fun drops => ?_)
      (wellNested_of_heard heard nested)
    exact command_of_endif (taken (heard.drops ▸ drops)) meaning

theorem loadLine_wellNested (pass : Pass) (line : Nat × List Char) {g : Game}
    (nested : g.WellNested) : (loadLine pass line g).value.WellNested := by
  refine wellNested_of_heard (loadLine_heard pass line g) ?_
  exact (scanLine_ends pass line.2 { g with progress := g.progress.atLine line.1 }).wellNested nested

theorem loadLines_wellNested (pass : Pass) (lines : List (Nat × List Char)) {g : Game}
    (nested : g.WellNested) : (loadLines pass lines g).value.WellNested :=
  loadLines_keeps (fun line _ => loadLine_wellNested pass line) lines nested

/-! ## Points of the full pass -/

/-- The game after the first `n` lines of the full pass over a text. -/
def atPoint (text : String) (n : Nat) (g : Game) : Game :=
  (loadLines .full ((scriptLines text).take n) g.cleared).value

/-- From one point to the next there is one line, or the text has ended. -/
theorem atPoint_succ (text : String) (n : Nat) (g : Game) :
    (∃ line, (scriptLines text)[n]? = some line ∧
      g.atPoint text (n + 1) = (loadLine .full line (g.atPoint text n)).value) ∨
    (scriptLines text).length ≤ n ∧ g.atPoint text (n + 1) = g.atPoint text n :=
  loadLines_take_succ .full (scriptLines text) n g.cleared

theorem cleared_wellNested (g : Game) : g.cleared.WellNested := ⟨0, [], Stacked.nil _⟩

theorem atPoint_wellNested (text : String) (n : Nat) (g : Game) : (g.atPoint text n).WellNested :=
  loadLines_wellNested .full _ g.cleared_wellNested

/-! ## What hangs on the open blocks -/

/-- All open blocks of `g` have conditions, `gate` is the innermost of them, and in the
    store `conditions` the chain of parents from `gate` is the list of open blocks. -/
def UnderOpenBlocks (g : Game) (conditions : List Condition) (gate : Option Nat) : Prop :=
  ∃ ids : List Nat, g.progress.blocks = ids.map .registered ∧ gate = ids.head? ∧
    ∀ chain, ParentChain conditions gate chain ↔ chain = ids

/-- Every entry that `g'` has beyond those of `g` hangs on the blocks open in `g`. -/
structure StoredUnderOpenBlocks (g g' : Game) : Prop where
  conditions : ∃ new, g'.script.conditions = g.script.conditions ++ new ∧
    ∀ c ∈ new, g.UnderOpenBlocks g'.script.conditions c.parent
  spawns : ∃ new, g'.script.spawns = g.script.spawns ++ new ∧
    ∀ e ∈ new, g.UnderOpenBlocks g'.script.conditions e.condition
  tunnellers : ∃ new, g'.script.tunnellers = g.script.tunnellers ++ new ∧
    ∀ e ∈ new, g.UnderOpenBlocks g'.script.conditions e.condition
  effects : ∃ new, g'.script.effects = g.script.effects ++ new ∧
    ∀ e ∈ new, g.UnderOpenBlocks g'.script.conditions e.condition
  wins : ∃ new, g'.script.wins = g.script.wins ++ new ∧
    ∀ id ∈ new, g.UnderOpenBlocks g'.script.conditions (some id)
  losses : ∃ new, g'.script.losses = g.script.losses ++ new ∧
    ∀ id ∈ new, g.UnderOpenBlocks g'.script.conditions (some id)

/-- Where nothing is dropped, the condition of the innermost block hangs on the open
    blocks, whatever conditions come after. -/
theorem underOpenBlocks_condition? {g : Game} (nested : g.WellNested)
    (taken : g.progress.drops = false) (more : List Condition) :
    g.UnderOpenBlocks (g.script.conditions ++ more) g.progress.condition? := by
  obtain ⟨dropped, ids, h⟩ := nested
  obtain rfl := h.dropped_eq_zero taken
  have chain : ParentChain (g.script.conditions ++ more) ids.head? ids := h.chain.append more
  refine ⟨ids, by simpa using h.blocks, h.condition?_eq, fun ids' => ?_⟩
  rw [h.condition?_eq]
  exact ⟨fun h' => h'.unique chain, fun h' => h' ▸ chain⟩

/-- Entries made the way the lines at `p` make them hang on what all of them hang on. -/
theorem adds_under {α β : Type} {p : Progress} {make : β → α} {xs xs' : List α} {gate : α → Option Nat}
    {Q : Option Nat → Prop} (h : p.Adds make xs xs') (marks : ∀ b, gate (make b) = p.condition?)
    (under : p.drops = false → Q p.condition?) :
    ∃ new, xs' = xs ++ new ∧ ∀ e ∈ new, Q (gate e) := by
  obtain ⟨new, hx, hd⟩ := h
  refine ⟨new.map make, hx, fun e he => ?_⟩
  obtain ⟨b, hb, rfl⟩ := List.mem_map.1 he
  rw [marks]
  refine under (eq_false_of_ne_true fun drops => ?_)
  rw [hd drops] at hb
  cases hb

/-- What a line stores hangs on the blocks that are open on it. -/
theorem loadLine_under (pass : Pass) (line : Nat × List Char) {g : Game} (nested : g.WellNested) :
    StoredUnderOpenBlocks g (loadLine pass line g).value := by
  have stores := loadLine_stores pass line g
  have under : g.progress.drops = false →
      g.UnderOpenBlocks (loadLine pass line g).value.script.conditions g.progress.condition? := by
    intro taken
    obtain ⟨more, hmore, _⟩ := stores.conditions
    rw [hmore]
    exact underOpenBlocks_condition? nested taken _
  exact ⟨adds_under stores.conditions (fun _ => rfl) under,
    adds_under stores.spawns (fun _ => rfl) under,
    adds_under stores.tunnellers (fun _ => rfl) under,
    adds_under stores.effects (fun _ => rfl) under,
    adds_under stores.wins (fun id => id.2.symm) under,
    adds_under stores.losses (fun id => id.2.symm) under⟩

theorem storedUnderOpenBlocks_self (g : Game) : StoredUnderOpenBlocks g g := by
  constructor <;> exact ⟨[], by simp, by simp⟩

/-- **Blocks nest.** After any number of lines of the full pass the open blocks are
    stacked as their conditions are, and whatever the next line stores hangs on the
    innermost of them, with exactly the open blocks above it. -/
theorem blocks_nest (text : String) (n : Nat) (g : Game) :
    (g.atPoint text n).WellNested ∧
      StoredUnderOpenBlocks (g.atPoint text n) (g.atPoint text (n + 1)) := by
  have nested := g.atPoint_wellNested text n
  refine ⟨nested, ?_⟩
  rcases atPoint_succ text n g with ⟨line, _, hn⟩ | ⟨_, hn⟩
  · rw [hn]
    exact loadLine_under .full line nested
  · rw [hn]
    exact storedUnderOpenBlocks_self _

end Game

end DungeonScript
