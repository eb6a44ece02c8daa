import DungeonScript.Proofs.Command
import DungeonScript.Proofs.Game.Reachable

/-!
Well-formed scripts. The numbers a script hands out on one line are looked up many turns
later, so the store has to stay consistent through everything that happens in between.
`Script.WellFormed` says what holds of it: no shelf holds more than its limit, a condition
comes after the one around it, every condition and party that is referred to exists, no two
parties go by the same name, no quick text is too long, and an entry that is always due
stays so.

The three ways a store changes each keep this: a command that is registered
(`Registered.wellFormed`), quick texts that are set (`WellFormed.setQuickTexts`), and a
sweep with the entries that fire on it (`WellFormed.afterSweep`). What the first needs to
know is that the open blocks belong to registered conditions, which `WellNested` says, and
that a party found by its name exists. From lines it goes on to passes and from those to all
reachable games (`reachable_wellFormed`).
-/

namespace DungeonScript

/-! ## Entries -/

/-- An entry as a store of `n` conditions may hold it: its condition is one of them,
    without one it may fire again and again, and what may fire again is never spent. -/
structure Gated.Sound {α : Type} (n : Nat) (e : Gated α) : Prop where
  bound : ∀ id, e.condition = some id → id < n
  ungated : e.condition = none → e.use.reusable = true
  unspent : e.use.reusable = true → e.use.spent = false

section Entries

variable {α : Type} {n : Nat}

theorem Gated.Sound.mono {e : Gated α} (h : e.Sound n) {m : Nat} (hm : n ≤ m) : e.Sound m :=
  { h with bound := fun id hid => Nat.lt_of_lt_of_le (h.bound id hid) hm }

theorem Gated.Sound.afterTurn {e : Gated α} (h : e.Sound n) (conditions : List Condition) :
    (e.afterTurn conditions).Sound n := by
  unfold Gated.afterTurn
  split
  · cases hr : e.use.reusable with
    | true =>
      have same : e.afterFiring = e := by
        unfold Gated.afterFiring Use.fired
        rw [if_pos hr]
      rw [same]
      exact h
    | false =>
      -- only an entry with a condition can fire once
      have once : e.afterFiring.use.reusable = false := by
        unfold Gated.afterFiring Use.fired
        simp [hr]
      refine ⟨h.bound, fun always => ?_, fun reusable => ?_⟩
      · rw [h.ungated always] at hr
        cases hr
      · rw [once] at reusable
        cases reusable
  · exact h

theorem Gated.afterTurn_item (e : Gated α) (conditions : List Condition) :
    (e.afterTurn conditions).item = e.item := by
  unfold Gated.afterTurn
  split <;> rfl

/-- A line stores an entry in a block or under an announcement, so the entry has a
    condition or may fire again. -/
theorem Progress.gate_sound {p : Progress} (defers : p.defers = true)
    (bound : ∀ id, p.condition? = some id → id < n) (item : α) : (p.gate item).Sound n where
  bound := bound
  ungated := by
    intro always
    have always : p.condition? = none := always
    have reusable : p.reusable = true := by simpa [Progress.defers, always] using defers
    simp [Progress.gate, reusable, Use.everyTime]
  unspent := fun _ => p.gate_unspent item

end Entries

/-! ## Stores -/

/-- What holds of every store that a script is loaded into. -/
structure Script.WellFormed (s : Script) : Prop where
  conditionsFit : s.conditions.length ≤ conditionLimit
  spawnsFit : s.spawns.length ≤ spawnLimit
  tunnellersFit : s.tunnellers.length ≤ tunnellerLimit
  effectsFit : s.effects.length ≤ effectLimit
  partiesFit : s.parties.length ≤ partyLimit
  membersFit : ∀ p ∈ s.parties, p.members.length ≤ memberLimit
  winsFit : s.wins.length ≤ verdictLimit
  lossesFit : s.losses.length ≤ verdictLimit
  /-- A condition comes after the one around it. -/
  parents : ParentsFirst s.conditions
  spawns : ∀ e ∈ s.spawns, e.Sound s.conditions.length
  tunnellers : ∀ e ∈ s.tunnellers, e.Sound s.conditions.length
  effects : ∀ e ∈ s.effects, e.Sound s.conditions.length
  wins : ∀ id ∈ s.wins, id < s.conditions.length
  losses : ∀ id ∈ s.losses, id < s.conditions.length
  spawnParties : ∀ e ∈ s.spawns, ∀ id, e.item.party? = some id → id < s.parties.length
  tunnellerParties : ∀ e ∈ s.tunnellers, ∀ id, e.item.party = some id → id < s.parties.length
  /-- No two parties go by the same name, in any case. -/
  names : (s.parties.map (·.name)).Pairwise fun a b => sameWord a b = false
  quickTextsCount : s.quickTexts.toList.length = quickTextCount
  quickTextsFit : ∀ t ∈ s.quickTexts.toList, t.length < quickTextLength

theorem length_concat_le {α : Type} {xs : List α} {limit : Nat} (room : xs.length < limit) (x : α) :
    (xs ++ [x]).length ≤ limit := by
  rw [List.length_append]
  exact room

theorem forall_mem_concat {α : Type} {P : α → Prop} {xs : List α} {x : α} (old : ∀ y ∈ xs, P y)
    (new : P x) : ∀ y ∈ xs ++ [x], P y :=
  List.forall_mem_append.2 ⟨old, List.forall_mem_singleton.2 new⟩

namespace Script

/-! ### Quick texts -/

theorem length_cutQuickText (text : String) : (cutQuickText text).length < quickTextLength := by
  have kept : (text.toList.take (quickTextLength - 1)).length ≤ quickTextLength - 1 :=
    List.length_take_le _ _
  have pos : 0 < quickTextLength := by decide
  simp only [cutQuickText, String.length_ofList]
  omega

theorem blank_quickTextsFit :
    ∀ t ∈ (Vector.replicate quickTextCount "").toList, t.length < quickTextLength := by
  intro t ht
  rw [Vector.toList_replicate] at ht
  rw [List.eq_of_mem_replicate ht]
  decide

namespace WellFormed

variable {s : Script}

theorem setQuickText (h : s.WellFormed) (index : Nat) (text : String) :
    (s.setQuickText index text).WellFormed := by
  unfold Script.setQuickText
  split
  · refine { h with quickTextsCount := by simp, quickTextsFit := fun t ht => ?_ }
    simp only [Vector.toList_set] at ht
    rcases List.mem_or_eq_of_mem_set ht with ht | rfl
    · exact h.quickTextsFit t ht
    · exact length_cutQuickText text
  · exact h

theorem setQuickTexts (h : s.WellFormed) (texts : List (Nat × String)) :
    (s.setQuickTexts texts).WellFormed := by
  unfold Script.setQuickTexts
  induction texts generalizing s with
  | nil => exact h
  | cons t rest ih => exact ih (h.setQuickText t.1 t.2)

theorem clearQuickTexts (h : s.WellFormed) : s.clearQuickTexts.WellFormed :=
  { h with quickTextsCount := by simp, quickTextsFit := blank_quickTextsFit }

end WellFormed

/-! ### Entries come and go -/

/-- A store without entries is well-formed if its quick texts are. -/
theorem clear_wellFormed {s : Script} (h : ∀ t ∈ s.quickTexts.toList, t.length < quickTextLength) :
    s.clear.WellFormed where
  conditionsFit := Nat.zero_le _
  spawnsFit := Nat.zero_le _
  tunnellersFit := Nat.zero_le _
  effectsFit := Nat.zero_le _
  partiesFit := Nat.zero_le _
  membersFit := List.forall_mem_nil _
  winsFit := Nat.zero_le _
  lossesFit := Nat.zero_le _
  parents := fun _ _ _ found => nomatch found
  spawns := List.forall_mem_nil _
  tunnellers := List.forall_mem_nil _
  effects := List.forall_mem_nil _
  wins := List.forall_mem_nil _
  losses := List.forall_mem_nil _
  spawnParties := List.forall_mem_nil _
  tunnellerParties := List.forall_mem_nil _
  names := List.Pairwise.nil
  quickTextsCount := by simp
  quickTextsFit := h

theorem empty_wellFormed : empty.WellFormed := by
  have cleared : empty.clear.WellFormed := clear_wellFormed blank_quickTextsFit
  exact cleared

/-- Asking the conditions and firing what is due keeps a store well-formed. -/
theorem WellFormed.afterSweep {s : Script} (h : s.WellFormed) (w : World) :
    (s.afterSweep (swept w s.conditions)).WellFormed := by
  have count : (swept w s.conditions).length = s.conditions.length := by
    rw [sweep_eq h.parents w, List.length_map]
  have sound : ∀ {α : Type} {xs : List (Gated α)}, (∀ e ∈ xs, e.Sound s.conditions.length) →
      ∀ e ∈ xs.map (·.afterTurn (swept w s.conditions)), e.Sound (swept w s.conditions).length := by
    intro α xs all e he
    obtain ⟨x, hx, rfl⟩ := List.mem_map.1 he
    rw [count]
    exact (all x hx).afterTurn _
  have fit : ∀ {α : Type} {xs : List (Gated α)} {limit : Nat}, xs.length ≤ limit →
      (xs.map (·.afterTurn (swept w s.conditions))).length ≤ limit := by
    intro α xs limit h
    rw [List.length_map]
    exact h
  refine { h with
    conditionsFit := count.symm ▸ h.conditionsFit
    spawnsFit := fit h.spawnsFit
    tunnellersFit := fit h.tunnellersFit
    effectsFit := fit h.effectsFit
    parents := h.parents.swept w
    spawns := sound h.spawns
    tunnellers := sound h.tunnellers
    effects := sound h.effects
    wins := fun id hid => count.symm ▸ h.wins id hid
    losses := fun id hid => count.symm ▸ h.losses id hid
    spawnParties := fun e he id hid => ?_
    tunnellerParties := fun e he id hid => ?_ }
  · obtain ⟨x, hx, rfl⟩ := List.mem_map.1 he
    rw [Gated.afterTurn_item] at hid
    exact h.spawnParties x hx id hid
  · obtain ⟨x, hx, rfl⟩ := List.mem_map.1 he
    rw [Gated.afterTurn_item] at hid
    exact h.tunnellerParties x hx id hid

end Script

namespace Game

/-! ## Commands -/

section Commands

variable {g : Game}

theorem openCondition_wellFormed (h : g.script.WellFormed) (nested : g.WellNested)
    (room : g.script.conditions.length < conditionLimit) (players : Selector) (test : Test) :
    Script.WellFormed { g.script with conditions :=
      g.script.conditions ++ [⟨g.progress.condition?, players, test, .unasked⟩] } := by
  have more : ∀ c : Condition,
      g.script.conditions.length ≤ (g.script.conditions ++ [c]).length := by simp
  exact { h with
    conditionsFit := length_concat_le room _
    parents := ParentsFirst.append h.parents (fun _ => nested.condition?_lt) [(players, test)]
    spawns := fun e he => (h.spawns e he).mono (more _)
    tunnellers := fun e he => (h.tunnellers e he).mono (more _)
    effects := fun e he => (h.effects e he).mono (more _)
    wins := fun id hid => Nat.lt_of_lt_of_le (h.wins id hid) (more _)
    losses := fun id hid => Nat.lt_of_lt_of_le (h.losses id hid) (more _) }

theorem createParty_wellFormed (h : g.script.WellFormed) {name : String}
    (unknown : g.script.findParty? name = none) (room : g.script.parties.length < partyLimit) :
    Script.WellFormed { g.script with parties := g.script.parties ++ [⟨name, []⟩] } := by
  have more : g.script.parties.length ≤ (g.script.parties ++ [(⟨name, []⟩ : Party)]).length := by
    simp
  have other : ∀ p ∈ g.script.parties, sameWord p.name name = false := by
    unfold Script.findParty? at unknown
    exact List.findIdx?_eq_none_iff.1 unknown
  refine { h with
    partiesFit := length_concat_le room _
    membersFit := forall_mem_concat h.membersFit (Nat.zero_le _)
    spawnParties := fun e he id hid => Nat.lt_of_lt_of_le (h.spawnParties e he id hid) more
    tunnellerParties := fun e he id hid => Nat.lt_of_lt_of_le (h.tunnellerParties e he id hid) more
    names := ?_ }
  simp only [List.map_append, List.map_cons, List.map_nil, List.pairwise_append]
  refine ⟨h.names, List.pairwise_singleton _ _, fun a ha b hb => ?_⟩
  obtain ⟨p, hp, rfl⟩ := List.mem_map.1 ha
  obtain rfl := List.mem_singleton.1 hb
  exact other p hp

theorem addMember_wellFormed (h : g.script.WellFormed) {id : Nat} {p : Party}
    (party : g.script.parties[id]? = some p) (room : p.isFull = false) (m : Member) :
    Script.WellFormed { g.script with
      parties := g.script.parties.set id { p with members := p.members ++ [m] } } := by
  have count : (g.script.parties.set id { p with members := p.members ++ [m] }).length =
      g.script.parties.length := List.length_set
  have names : (g.script.parties.set id { p with members := p.members ++ [m] }).map (·.name) =
      g.script.parties.map (·.name) := by
    obtain ⟨hid, rfl⟩ := List.getElem?_eq_some_iff.1 party
    have hmap : id < (g.script.parties.map (·.name)).length := by simpa using hid
    have name : (g.script.parties.map (·.name))[id] = g.script.parties[id].name :=
      List.getElem_map _
    rw [List.map_set]
    exact (congrArg (List.set _ id) name.symm).trans (List.set_getElem_self _)
  refine { h with
    partiesFit := count.symm ▸ h.partiesFit
    membersFit := fun q hq => ?_
    spawnParties := fun e he i hi => count.symm ▸ h.spawnParties e he i hi
    tunnellerParties := fun e he i hi => count.symm ▸ h.tunnellerParties e he i hi
    names := names.symm ▸ h.names }
  rcases List.mem_or_eq_of_mem_set hq with hq | rfl
  · exact h.membersFit q hq
  · have room : p.members.length < memberLimit := by simpa [Party.isFull] using room
    exact length_concat_le room m

end Commands

/-- A command that is registered keeps the store well-formed. -/
theorem Registered.wellFormed {c : Command} {g g' : Game} (done : Registered g c g')
    (nested : g.WellNested) (parties : c.PartyBelow g.script.parties.length)
    (h : g.script.WellFormed) : g'.script.WellFormed := by
  have bound : ∀ id, g.progress.condition? = some id → id < g.script.conditions.length :=
    fun _ => nested.condition?_lt
  cases done with
  | conditionOpened room => exact openCondition_wellFormed h nested room _ _
  | effectStored defers room =>
    exact { h with
      effectsFit := length_concat_le room _
      effects := forall_mem_concat h.effects (Progress.gate_sound defers bound _) }
  | spawnStored defers room =>
    exact { h with
      spawnsFit := length_concat_le room _
      spawns := forall_mem_concat h.spawns (Progress.gate_sound defers bound _)
      spawnParties := forall_mem_concat h.spawnParties parties }
  | tunnellerStored defers room =>
    exact { h with
      tunnellersFit := length_concat_le room _
      tunnellers := forall_mem_concat h.tunnellers (Progress.gate_sound defers bound _)
      tunnellerParties := forall_mem_concat h.tunnellerParties parties }
  | partyCreated unknown room => exact createParty_wellFormed h unknown room
  | memberAdded _ party room => exact addMember_wellFormed h party room _
  | winAdded condition room =>
    exact { h with
      winsFit := length_concat_le room _
      wins := forall_mem_concat h.wins (bound _ condition) }
  | lossAdded condition room =>
    exact { h with
      lossesFit := length_concat_le room _
      losses := forall_mem_concat h.losses (bound _ condition) }
  -- no other command touches the store
  | _ => exact h

/-! ## Lines -/

theorem Heard.parties {g h : Game} (heard : Heard g h) : h.script.parties = g.script.parties := by
  obtain ⟨_, _, _, rfl⟩ := heard
  rfl

/-- What is said while a line is made sense of keeps the store well-formed. -/
theorem hear_wellFormed {g h : Game} (told : Told g h) (asides : List Aside)
    (wf : g.script.WellFormed) : (hear asides h).value.script.WellFormed := by
  rw [hear_script, told.script]
  exact wf.setQuickTexts _

theorem LineEnd.wellFormed {pass : Pass} {text : List Char} {g g' : Game} {f : Option Fault}
    (h : LineEnd pass text g g' f) (nested : g.WellNested) (wf : g.script.WellFormed) :
    g'.script.WellFormed := by
  cases h with
  | unread _ told => exact told.script ▸ wf
  | skipped _ told => exact told.script ▸ wf
  | dropped _ _ _ told =>
    rw [told.script, passOver_script]
    exact wf
  | senseless _ _ told _ =>
    rw [passOver_script]
    exact hear_wellFormed told _ wf
  | refused _ _ told _ _ =>
    rw [passOver_script]
    exact hear_wellFormed told _ wf
  | @done l h _ c _ _ told meaning registered =>
    have heard : Heard g (hear (g.lineMeaning l).asides h).value :=
      told.heard.trans (hear_heard _ _)
    refine (register_registered registered).wellFormed (wellNested_of_heard heard nested) ?_
      (hear_wellFormed told _ wf)
    rw [heard.parties]
    exact Command.resolve_partyBelow g.world g.script l c meaning

theorem loadLine_wellFormed (pass : Pass) (line : Nat × List Char) {g : Game}
    (nested : g.WellNested) (wf : g.script.WellFormed) :
    (loadLine pass line g).value.script.WellFormed := by
  rw [loadLine_script]
  exact (scanLine_ends pass line.2 { g with progress := g.progress.atLine line.1 }).wellFormed
    nested wf

theorem loadLines_wellFormed (pass : Pass) (lines : List (Nat × List Char)) {g : Game}
    (nested : g.WellNested) (wf : g.script.WellFormed) :
    (loadLines pass lines g).value.script.WellFormed := by
  refine (loadLines_keeps (P := fun h => h.WellNested ∧ h.script.WellFormed) ?_ lines
    ⟨nested, wf⟩).2
  intro line h both
  exact ⟨loadLine_wellNested pass line both.1, loadLine_wellFormed pass line both.1 both.2⟩

/-! ## Games -/

theorem preload_wellFormed (text : String) {g : Game} (wf : g.script.WellFormed) :
    (g.preload text).value.script.WellFormed :=
  loadLines_wellFormed .preload _ ⟨0, [], Stacked.nil _⟩ wf.clearQuickTexts

theorem load_wellFormed (text : String) {g : Game} (wf : g.script.WellFormed) :
    (g.load text).value.script.WellFormed := by
  rw [load_script]
  exact loadLines_wellFormed .full _ g.cleared_wellNested (Script.clear_wellFormed wf.quickTextsFit)

theorem tick_wellFormed (o : Options) {g : Game} (wf : g.script.WellFormed) :
    (g.tick o).value.script.WellFormed := by
  rw [tick_script]
  split
  · exact wf
  · exact wf.afterSweep g.world

/-- **Scripts stay well-formed.** Whatever texts are preloaded and loaded, however often the
    script has its turn, and whatever happens to the world in between: no shelf overflows,
    every condition and every party that is referred to exists, parents come first, names are
    told apart, and what has no condition stays due on every turn. -/
theorem reachable_wellFormed {g : Game} (reachable : g.Reachable) : g.script.WellFormed := by
  induction reachable with
  | fresh o w => exact Script.empty_wellFormed
  | visited w _ ih => exact ih
  | preloaded text _ ih => exact preload_wellFormed text ih
  | loaded text _ ih => exact load_wellFormed text ih
  | ticked o _ ih => exact tick_wellFormed o ih

/-- A party that waits for a condition, and a creature that comes on every turn. -/
theorem wellFormed_after_tick :
    let g := (tick .usual (load ("CREATE_PARTY(raiders)\n" ++
      "IF(PLAYER0,GAME_TURN >= 100)\nADD_PARTY_TO_LEVEL(PLAYER0,Raiders,PLAYER0,1)\nENDIF\n" ++
      "NEXT_COMMAND_REUSABLE\nADD_CREATURE_TO_LEVEL(PLAYER0,IMP,PLAYER0,1,1,0)\n")
      default).value).value
    g.script.WellFormed ∧
      g.script.spawns.map (fun e => (e.condition, e.item.party?)) = [(some 0, some 0), (none, none)] := by
  intro g
  have reachable : g.Reachable := .ticked _ (.loaded _ (.fresh .usual .fresh))
  exact ⟨reachable_wellFormed reachable, by decide +kernel⟩

end Game

end DungeonScript
