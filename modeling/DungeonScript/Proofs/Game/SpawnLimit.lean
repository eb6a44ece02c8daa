import DungeonScript.Proofs.Game.TunnellerParties
import DungeonScript.Proofs.World.Mustering

/-!
How many creatures one spawn makes. At a place that lets creatures appear these are as many as the
copies of it have members, or as there are numbers left for (`size_creatures_spawn`). The copies of
a creature are checked against `creatureLimit` when the line is made sense of, and those of a party
are only checked to be one at least. So a spawn that makes more than `creatureLimit` creatures is
one of a party, and every party of enough members or copies is such a spawn
(`spawn_exceeds_limit_iff`).
-/

namespace DungeonScript

/-! ## Sizes -/

def Brood.copies : Brood → Int
  | party _ copies => copies
  | creatures _ _ _ copies => copies

/-- How many creatures there are in one copy of a brood. -/
def Brood.size (parties : List Party) : Brood → Nat
  | party id _ => ((parties[id]?).map (·.members.length)).getD 0
  | creatures _ _ _ _ => 1

namespace World

/-- How many creatures a spawn makes where there are numbers for all of them. -/
def headcount (parties : List Party) (s : Spawn) (w : World) : Nat :=
  if w.spawnAllowed s.place then s.brood.copies.toNat * s.brood.size parties else 0

section Sizes

variable (owner : Player) (place : Place) (w : World)

theorem size_creatures_spawnCreature (kind : Nat) (gold : Int) (level : Nat) :
    (w.spawnCreature owner kind place gold level).value.1.creatures.size =
      w.creatures.size + min w.room (if w.admits place then 1 else 0) := by
  by_cases receives : w.Receives place
  · rw [spawnCreature_peopled receives, if_pos receives.1, Nat.min_eq_right receives.2]
    exact size_creatures_peopled ..
  · rw [spawnCreature_of_not_receives receives]
    split
    · rename_i admits
      have full : w.room = 0 := Nat.eq_zero_of_not_pos fun numbers => receives ⟨admits, numbers⟩
      rw [full, Nat.zero_min]
      rfl
    · rw [Nat.min_zero]
      rfl

theorem size_creatures_spawnCopies (kind : Nat) (gold : Int) (level copies : Nat) :
    (spawnCopies owner kind place gold level copies w).value.creatures.size =
      w.creatures.size + min w.room (if w.admits place then copies else 0) := by
  induction copies generalizing w with
  | zero => simp [spawnCopies]
  | succ copies ih =>
    have first := w.size_creatures_spawnCreature owner place kind gold level
    have kept := admits_of_unpeopled (w.spawnCreature_unpeopled owner kind place gold level) place
    rw [spawnCopies, Logged.value_bind]
    refine (ih _).trans ?_
    rw [kept, room, first]
    unfold room
    split <;> omega

theorem size_creatures_spawnMembers (ms : List Member) :
    (spawnMembers owner place ms none none w).value.1.creatures.size =
      w.creatures.size + min w.room (if w.admits place then ms.length else 0) := by
  cases admits : w.admits place with
  | true =>
    rw [spawnMembers_world owner place admits, size_creatures_afterCopy, List.length_take]
    rfl
  | false =>
    rw [spawnMembers_of_nobody owner (.inl admits), if_neg Bool.false_ne_true, Nat.min_zero]
    rfl

theorem size_creatures_spawnParty (party : Party) (copies : Nat) :
    (spawnParty party owner place copies w).value.1.creatures.size =
      w.creatures.size + min w.room (if w.admits place then copies * party.members.length else 0) := by
  induction copies generalizing w with
  | zero => simp [spawnParty]
  | succ copies ih =>
    cases copies with
    | zero =>
      rw [Nat.zero_add, Nat.one_mul]
      exact w.size_creatures_spawnMembers owner place party.members
    | succ copies =>
      have first := w.size_creatures_spawnMembers owner place party.members
      have kept := admits_of_unpeopled
        (spawnMembers_unpeopled owner place party.members none none w) place
      rw [spawnParty, Logged.value_bind]
      · refine (ih _).trans ?_
        rw [kept, room, first, Nat.succ_mul (copies + 1)]
        unfold room
        split <;> omega
      · omega

end Sizes

theorem size_creatures_spawn (parties : List Party) (s : Spawn) (w : World) :
    (spawn parties s w).value.creatures.size =
      w.creatures.size + min w.room (w.headcount parties s) := by
  obtain ⟨owner, place, brood⟩ := s
  rw [headcount, ← admits_eq]
  cases brood with
  | creatures kind level gold copies =>
    rw [Brood.size, Nat.mul_one]
    exact w.size_creatures_spawnCopies owner place kind gold level copies.toNat
  | party id copies =>
    unfold spawn
    simp only [Brood.copies, Brood.size]
    cases found : parties[id]? with
    | none => simp
    | some party => exact w.size_creatures_spawnParty owner place party copies.toNat

/-- Whether creatures can appear does not depend on which ones did. -/
theorem headcount_of_unpeopled {w w' : World} (same : w'.unpeopled = w.unpeopled)
    (parties : List Party) (s : Spawn) : w'.headcount parties s = w.headcount parties s := by
  rw [headcount, headcount, ← admits_eq, ← admits_eq, admits_of_unpeopled same]

/-- Of creatures no spawn that was checked makes too many; of a party it makes as many as its
    copies have members. -/
theorem limit_lt_headcount_iff {s : Spawn} (checked : s.brood.InBounds) (parties : List Party)
    (w : World) : creatureLimit < w.headcount parties s ↔
      ∃ id copies, s.brood = .party id copies ∧ w.spawnAllowed s.place = true ∧
        creatureLimit < copies * (Brood.party id copies).size parties := by
  unfold headcount
  cases brood : s.brood with
  | creatures kind level gold copies =>
    rw [brood] at checked
    obtain ⟨-, least, most⟩ := checked
    refine ⟨fun many => ?_, fun ⟨_, _, other, _⟩ => nomatch other⟩
    split at many
    · simp only [Brood.copies, Brood.size] at many
      omega
    · exact absurd many (by decide)
  | party id copies =>
    rw [brood] at checked
    have least : 1 ≤ copies := checked
    have copied : (copies.toNat : Int) = copies := Int.toNat_of_nonneg (by omega)
    simp only [Brood.copies]
    cases allowed : w.spawnAllowed s.place with
    | true =>
      rw [if_pos rfl, Int.natCast_mul, copied]
      refine ⟨fun many => ⟨id, copies, rfl, rfl, many⟩, fun ⟨_, _, same, _, many⟩ => ?_⟩
      cases same
      exact many
    | false =>
      rw [if_neg Bool.false_ne_true]
      exact ⟨fun many => absurd many (by decide), fun ⟨_, _, _, allowed, _⟩ => nomatch allowed⟩

end World

/-! ## One visit to a stored spawn -/

namespace Script

/-- A turn up to the stored spawn of this number: the conditions have been swept, and the spawns
    before it have been visited. -/
def beforeSpawn (s : Script) (w : World) (k : Nat) : Visits :=
  (List.range k).foldl spawnRack.visit
    ⟨[], s.sweptIn w, w.countReadings (sweep w s.conditions).value.readings⟩

theorem beforeSpawn_succ (s : Script) (w : World) (k : Nat) :
    s.beforeSpawn w (k + 1) = spawnRack.visit (s.beforeSpawn w k) k := by
  rw [beforeSpawn, List.range_succ, List.foldl_append]
  rfl

/-- What the visits so far have left as it was for the stored spawns from number `k` on. -/
structure Pending (s : Script) (w : World) (k : Nat) (v : Visits) : Prop where
  parties : v.script.parties = s.parties
  conditions : v.script.conditions = swept w s.conditions
  spawns : ∀ j, k ≤ j → v.script.spawns[j]? = s.spawns[j]?
  unpeopled : v.world.unpeopled =
    (w.countReadings (sweep w s.conditions).value.readings).unpeopled

section Visits

variable {s : Script} {w : World} {k : Nat} {v : Visits}

theorem Pending.visit (pending : s.Pending w k v) : s.Pending w (k + 1) (spawnRack.visit v k) := by
  have later : s.Pending w (k + 1) v :=
    { pending with spawns := fun j after => pending.spawns j (Nat.le_of_succ_le after) }
  -- there is no spawn of this number, or it fires, or it does not
  unfold Rack.visit
  split
  · exact later
  · split
    · refine ⟨pending.parties, pending.conditions, fun j after => ?_,
        (World.spawn_unpeopled _ _ v.world).trans pending.unpeopled⟩
      show (v.script.spawns.set k _)[j]? = s.spawns[j]?
      rw [List.getElem?_set_ne (by omega)]
      exact later.spawns j after
    · exact later

theorem beforeSpawn_pending (s : Script) (w : World) (k : Nat) :
    s.Pending w k (s.beforeSpawn w k) := by
  induction k with
  | zero => exact ⟨rfl, rfl, fun _ _ => rfl, rfl⟩
  | succ k ih =>
    rw [beforeSpawn_succ]
    exact ih.visit

/-- A spawn that fires makes as many creatures as it would at the start of the turn, if there are
    numbers for them, and one that does not fire makes none. -/
theorem Pending.size_creatures_visit (pending : s.Pending w k v) {e : Gated Spawn}
    (stored : s.spawns[k]? = some e) : (spawnRack.visit v k).world.creatures.size =
      v.world.creatures.size +
        if e.fires (swept w s.conditions) then min v.world.room (w.headcount s.parties e.item)
        else 0 := by
  have here : (spawnRack.entries v.script)[k]? = some e :=
    (pending.spawns k (Nat.le_refl k)).trans stored
  have same : v.world.headcount s.parties e.item = w.headcount s.parties e.item :=
    World.headcount_of_unpeopled pending.unpeopled s.parties e.item
  rw [Rack.visit, here]
  simp only [pending.conditions]
  split
  · rw [← same, ← pending.parties]
    exact World.size_creatures_spawn v.script.parties e.item v.world
  · rfl

end Visits

end Script

namespace Game

/-! ## What lines store -/

section Always

variable {P : Command → Prop}

theorem loadLines_entries (always : ∀ w s l, (Command.resolve w s l).Gives P) (pass : Pass)
    (lines : List (Nat × List Char)) {g : Game} (old : g.script.Entries P) :
    (loadLines pass lines g).value.script.Entries P := by
  refine loadLines_keeps (P := fun h => h.script.Entries P) ?_ lines old
  intro line h old
  rw [loadLine_script]
  have ends := scanLine_ends pass line.2 { h with progress := h.progress.atLine line.1 }
  rcases ends.idle_or_registered with idle | ⟨l, c, k, _, _, meaning, heard, registered⟩
  · exact idle.entries old
  · exact (register_registered registered).entries (heard.entries old) (always _ _ l c meaning)

/-- If what lines come to always has a property, so has everything that is ever stored. -/
theorem Reachable.entries (always : ∀ w s l, (Command.resolve w s l).Gives P) {g : Game}
    (reachable : g.Reachable) : g.script.Entries P := by
  induction reachable with
  | fresh o w => exact Script.Entries.of_empty _
  | visited w _ ih => exact ih
  | preloaded text _ ih => exact loadLines_entries always .preload _ { ih with }
  | loaded text _ _ =>
    refine (load_entries text _).mono fun c asked => ?_
    obtain ⟨l, _, _, _, _, meaning⟩ := asked
    exact always _ _ l c meaning
  | @ticked g o _ ih =>
    rw [tick_script]
    split
    · exact ih
    · exact ih.afterSweep g.world

end Always

def BroodChecked : Command → Prop
  | .spawn s => s.brood.InBounds
  | _ => True

theorem resolve_broodChecked (w : World) (s : Script) (l : ScriptLine) :
    (Command.resolve w s l).Gives BroodChecked := by
  intro c meaning
  cases c with
  | spawn spawned => exact (Command.resolve_ofLine w s l _ meaning).inBounds.2
  | _ => trivial

/-! ## The line of a spawn -/

/-- A line that is taken stores its spawn, or has it appear at once. -/
theorem LineEnd.of_spawn {text : List Char} {g g' : Game} {l : ScriptLine} {s : Spawn}
    (h : LineEnd .full text g g' none) (taken : g.progress.drops = false)
    (comes : g.ComesTo text l (.spawn s)) :
    g'.script.spawns = g.script.spawns ++ (if g.progress.defers then [g.progress.gate s] else []) ∧
      g'.world.creatures.size = g.world.creatures.size +
        if g.progress.defers then 0
        else min g.world.room (g.world.headcount g.script.parties s) := by
  obtain ⟨k, told, ⟨e, same, _⟩ | ⟨_, registered⟩⟩ := h.of_meaning taken comes.1 comes.2
  · cases same
  · obtain ⟨_, _, _, heard⟩ := told.heard.trans (hear_heard (g.lineMeaning l).asides k)
    rw [heard] at registered
    cases register_registered registered with
    | spawnStored waits _ =>
      have waits : g.progress.defers = true := waits
      rw [if_pos waits, if_pos waits]
      exact ⟨rfl, rfl⟩
    | spawnDone acts =>
      have acts : ¬g.progress.defers = true := ne_true_of_eq_false acts
      rw [if_neg acts, if_neg acts, List.append_nil]
      exact ⟨rfl, World.size_creatures_spawn g.script.parties s g.world⟩

/-- A tick that is not skipped visits the stored spawns, then the tunnellers and the effects. -/
theorem tick_of_spawns_visited {o : Options} {g : Game} (processed : g.isOver o = false) :
    let visited := effectRack.visitAll <| tunnellerRack.visitAll <|
      g.script.beforeSpawn g.world g.script.spawns.length
    (g.tick o).value = { g with
      script := visited.script
      world := (visited.script.giveVerdicts visited.world).value } := by
  intro visited
  rw [tick_of_processed processed, (g.script.turn_eq_visitTurn g.world).2]
  rfl

/-! ## Over the limit -/

/-- **How many creatures one spawn makes.** A line that comes to a spawn and is taken stores the
    spawn, or has it appear at once. A tick visits the stored spawns one after the other, and those
    that are due fire. Each time this makes as many creatures as the copies of the brood have
    members, if creatures can appear at the place, and none otherwise; only where the numbers for
    creatures run out are there fewer. The numbers of the brood were checked, which for creatures
    keeps this below `creatureLimit`. A party is only known to appear once at least, and each copy
    has all the members the party has by then, at most `memberLimit`. So what makes more than
    `creatureLimit` creatures is a party whose copies have more members than that. -/
theorem spawn_exceeds_limit_iff (g : Game) :
    (∀ text l s g', g.progress.drops = false → g.ComesTo text l (.spawn s) →
      (scanLine .full text g).value = .done g' → s.brood.InBounds ∧
        g'.script.spawns =
          g.script.spawns ++ (if g.progress.defers then [g.progress.gate s] else []) ∧
        g'.world.creatures.size = g.world.creatures.size +
          if g.progress.defers then 0
          else min g.world.room (g.world.headcount g.script.parties s)) ∧
    (∀ o, g.isOver o = false →
      let visited := effectRack.visitAll <| tunnellerRack.visitAll <|
        g.script.beforeSpawn g.world g.script.spawns.length
      (g.tick o).value = { g with
        script := visited.script
        world := (visited.script.giveVerdicts visited.world).value }) ∧
    (g.Reachable → (∀ id, (g.script.membersOf id).length ≤ memberLimit) ∧
      ∀ k e, g.script.spawns[k]? = some e → e.item.brood.InBounds ∧
        (g.script.beforeSpawn g.world (k + 1)).world.creatures.size =
          (g.script.beforeSpawn g.world k).world.creatures.size +
            if e.fires (swept g.world g.script.conditions) then
              min (g.script.beforeSpawn g.world k).world.room
                (g.world.headcount g.script.parties e.item)
            else 0) ∧
    ∀ s, s.brood.InBounds → (creatureLimit < g.world.headcount g.script.parties s ↔
      ∃ id copies, s.brood = .party id copies ∧ g.world.spawnAllowed s.place = true ∧
        creatureLimit < copies * (g.script.membersOf id).length) := by
  refine ⟨fun text l s g' taken comes accepted => ?_, fun _ => tick_of_spawns_visited,
    fun reachable => ⟨reachable.length_membersOf_le, fun k e stored => ?_⟩, fun s checked => ?_⟩
  · have ends := scanLine_ends .full text g
    rw [accepted] at ends
    exact ⟨resolve_broodChecked _ _ l _ comes.2, ends.of_spawn taken comes⟩
  · rw [Script.beforeSpawn_succ]
    have entries := reachable.entries resolve_broodChecked
    exact ⟨entries.spawns e (List.mem_of_getElem? stored),
      (Script.beforeSpawn_pending _ _ k).size_creatures_visit stored⟩
  · simp only [Script.length_membersOf]
    exact World.limit_lt_headcount_iff checked g.script.parties g.world

/-- A party of one appears 257 times. -/
theorem spawn_exceeds_limit_of_many_copies :
    let lines := [(1, "CREATE_PARTY(A)".toList),
      (2, "ADD_TO_PARTY(A,WIZARD,1,0,ATTACK_ROOMS,0)".toList)]
    let line := "ADD_PARTY_TO_LEVEL(PLAYER0,A,PLAYER0,257)".toList
    let g := (loadLines .full lines default).value
    let g' := (scanLine .full line g).value.left
    (scanLine .full line g).value.fault = none ∧ g'.world.creatures.size = 257 ∧
      creatureLimit < g.world.headcount g.script.parties
        ⟨0, .heart 0, .party 0 257⟩ := by
  intro lines line g g'
  let spawned : Spawn := ⟨0, .heart 0, .party 0 257⟩
  let l : ScriptLine := ⟨⟨"ADD_PARTY_TO_LEVEL", [.word, .word, .word, .number], .addPartyToLevel⟩,
    ["PLAYER0", "A", "PLAYER0", "257"], [0, 0, 0, 257]⟩
  have comes : g.ComesTo line l (.spawn spawned) :=
    ⟨eq_ok_of_toOption (by decide +kernel), eq_ok_of_toOption (by decide +kernel)⟩
  obtain ⟨accepted, taken, nobody, defers, many, allowed, members⟩ :
      (scanLine .full line g).value.fault = none ∧ g.progress.drops = false ∧
        g.world.creatures.size = 0 ∧ g.progress.defers = false ∧
        g.world.headcount g.script.parties spawned = 257 ∧
        g.world.spawnAllowed spawned.place = true ∧ (g.script.membersOf 0).length = 1 := by
    decide +kernel
  clear_value g
  obtain ⟨atLine, _, _, exceeds⟩ := spawn_exceeds_limit_iff g
  obtain ⟨checked, _, size⟩ := atLine line l spawned g' taken comes (Attempt.eq_done accepted)
  refine ⟨accepted, ?_, ?_⟩
  · rw [size, World.room, nobody, defers, many]
    rfl
  · refine (exceeds spawned checked).2 ⟨0, 257, rfl, allowed, ?_⟩
    rw [members]
    decide

end Game

end DungeonScript
