import DungeonScript.Proofs.World.Mustering

/-!
Tunnellers that appear. A tunneller appears before its party and keeps out of the way until all
members have gathered for whom there are numbers (`escort`). Then it joins them through the one that
leads, and leads them itself (`spawnTunnellerParty_musters`). So the group of a tunneller is known
exactly (`sendOut_groups`): it has one creature more than members have appeared, whatever the limits
on parties may be.
-/

namespace DungeonScript

open Member

namespace World

/-! ## Tunnellers -/

/-- The members of its party for whom there are numbers once a tunneller has appeared. -/
def escort (w : World) (party : Party) : List Member := party.members.take (w.room - 1)

/-- How many creatures are to follow a tunneller. -/
def followers (parties : List Party) (t : Tunneller) : Nat :=
  ((t.party.bind (parties[·]?)).map (·.members.length)).getD 0

def digger (t : Tunneller) (group : Option Nat) : Creature :=
  ⟨tunnellerKind, t.owner, t.place, t.gold, t.level, true, none, some (t.heading, t.target), group⟩

section Tunnellers

variable {w : World} {t : Tunneller}

theorem spawnTunneller_peopled (receives : w.Receives t.place) :
    (w.spawnTunneller t).value = (w.peopled [digger t none] [] t.owner, some w.creatures.size) := by
  have sent : ((w.peopled [⟨tunnellerKind, t.owner, t.place, t.gold, t.level, true, none, none, none⟩]
      [] t.owner).sendTunneller w.creatures.size t.heading t.target).1 =
        w.peopled [digger t none] [] t.owner := w.onCreature_peopled _ [] t.owner 0 _
  rw [spawnTunneller, Logged.value_bind, spawnCreature_peopled receives, ← sent]
  simp only
  split <;> rfl

theorem spawnTunneller_of_not_receives (not : ¬w.Receives t.place) :
    (w.spawnTunneller t).value = (w, none) := by
  rw [spawnTunneller, Logged.value_bind, spawnCreature_of_not_receives not]
  rfl

/-- The world where a party has appeared right after a tunneller, which is still alone. -/
def escorted (w : World) (t : Tunneller) (ms : List Member) : World :=
  w.peopled (digger t none :: w.ranks t.owner t.place ms w.groups.size)
    (formation ms (captain ms) (w.creatures.size + 1)) t.owner

/-- The world where a party and its tunneller are one group, under one of them. -/
def tunnelling (w : World) (t : Tunneller) (ms : List Member) (leader : Nat) : World :=
  w.peopled (digger t (some w.groups.size) ::
      ms.map (w.recruit t.owner t.place (some w.groups.size)))
    [⟨leader, List.range' (w.creatures.size + 1) ms.length ++ [w.creatures.size]⟩] t.owner

theorem mustered_after_tunneller (ms : List Member) :
    (w.peopled [digger t none] [] t.owner).mustered t.owner t.place ms (captain ms) =
      w.escorted t ms := by
  have creatures : (w.peopled [digger t none] [] t.owner).creatures.size =
      w.creatures.size + 1 := size_creatures_peopled ..
  have groups : (w.peopled [digger t none] [] t.owner).groups.size = w.groups.size :=
    size_groups_peopled ..
  rw [mustered, creatures, groups]
  exact w.peopled_peopled ..

/-- A tunneller joins its party through the one that leads it. -/
theorem join_escorted {ms : List Member} (some_ : ms ≠ []) :
    ∃ leader, (w.escorted t ms).join w.creatures.size (w.creatures.size + 1 + captain ms) =
      (w.tunnelling t ms leader, some w.groups.size) := by
  have leads := captain_lt some_
  have place : w.creatures.size + 1 + captain ms = w.creatures.size + (captain ms + 1) := by omega
  rw [place]
  unfold escorted
  rcases Nat.lt_or_ge 1 ms.length with many | few
  · have inside : (digger t none :: w.ranks t.owner t.place ms w.groups.size)[captain ms + 1]?.map
        (·.group) = some (some (w.groups.size + 0)) := by
      rw [ranks_of_many many, List.getElem?_cons_succ, List.getElem?_map,
        List.getElem?_eq_getElem leads]
      rfl
    rw [ranks_of_many many] at inside ⊢
    rw [formation_of_many many]
    exact ⟨_, w.join_peopled_of_inside (n := 0) inside rfl⟩
  · obtain ⟨m, rfl⟩ := List.length_eq_one_iff.1 (Nat.le_antisymm few (Nat.zero_lt_of_lt leads))
    rw [captain_singleton]
    exact ⟨_, w.join_peopled_of_alone (n := 0) Nat.one_ne_zero rfl rfl⟩

theorem receives_of_escort {party : Party} (admits : w.admits t.place = true)
    (some_ : w.escort party ≠ []) : w.Receives t.place := by
  refine ⟨admits, Nat.pos_of_ne_zero fun full => some_ ?_⟩
  rw [escort, full]
  exact List.take_zero

theorem room_after_tunneller : (w.peopled [digger t none] [] t.owner).room = w.room - 1 :=
  room_peopled ..

theorem spawnTunnellerParty_of_escort {party : Party} (admits : w.admits t.place = true)
    (some_ : w.escort party ≠ []) : (w.spawnTunnellerParty party t).value =
      w.tunnelling t (w.escort party) w.creatures.size := by
  have admits' : (w.peopled [digger t none] [] t.owner).admits t.place = true :=
    (w.admits_peopled _ _ t.owner t.place).trans admits
  have creatures : (w.peopled [digger t none] [] t.owner).creatures.size =
      w.creatures.size + 1 := size_creatures_peopled ..
  have follow : party.members.take (w.peopled [digger t none] [] t.owner).room = w.escort party := by
    rw [room_after_tunneller]
    rfl
  have appear := spawnMembers_of_admits t.owner admits' (follow.symm ▸ some_)
  rw [follow, mustered_after_tunneller, creatures] at appear
  obtain ⟨leader, joined⟩ := join_escorted (w := w) (t := t) some_
  rw [spawnTunnellerParty, Logged.value_bind,
    spawnTunneller_peopled (receives_of_escort admits some_)]
  simp only [Logged.value_bind, spawnParty, appear]
  show (w.escorted t (w.escort party)).addAsLeader w.creatures.size
    (w.creatures.size + 1 + captain (w.escort party)) = _
  rw [addAsLeader, joined]
  exact w.onGroup_peopled _ _ t.owner 0 _

/-- A tunneller that none of its party can follow stays alone. -/
theorem spawnTunnellerParty_of_alone {party : Party} (receives : w.Receives t.place)
    (none_ : w.escort party = []) : (w.spawnTunnellerParty party t).value =
      w.peopled [digger t none] [] t.owner := by
  have follow : party.members.take (w.peopled [digger t none] [] t.owner).room = [] := by
    rw [room_after_tunneller]
    exact none_
  have nobody : (spawnMembers t.owner t.place party.members none none
      (w.peopled [digger t none] [] t.owner)).value = (w.peopled [digger t none] [] t.owner, none) :=
    spawnMembers_of_nobody t.owner (.inr follow)
  rw [spawnTunnellerParty, Logged.value_bind, spawnTunneller_peopled receives]
  simp only [Logged.value_bind, spawnParty, nobody]
  rfl

theorem spawnTunnellerParty_of_not_receives (not : ¬w.Receives t.place) (party : Party) :
    (w.spawnTunnellerParty party t).value = w := by
  rw [spawnTunnellerParty, Logged.value_bind, spawnTunneller_of_not_receives not]
  rfl

end Tunnellers

/-- **Tunnellers with a party.** Where the world lets creatures appear, a tunneller does, with its
    heading, and after it the members of its party for whom there are numbers left, in their order
    and behind all creatures that were there. If any member has appeared, all of them and the
    tunneller and nobody else are one new group, which the tunneller leads whatever the levels.
    Nothing else changes but the count of their owner's creatures. Elsewhere, or without a number
    for the tunneller, nothing changes. -/
theorem spawnTunnellerParty_musters (w : World) (t : Tunneller) (party : Party) :
    (w.spawnAllowed t.place = true → w.escort party ≠ [] → (w.spawnTunnellerParty party t).value =
      w.peopled (digger t (some w.groups.size) ::
          (w.escort party).map (w.recruit t.owner t.place (some w.groups.size)))
        [⟨w.creatures.size,
          List.range' (w.creatures.size + 1) (w.escort party).length ++ [w.creatures.size]⟩]
        t.owner) ∧
    (w.spawnAllowed t.place = true → 0 < w.room → w.escort party = [] →
      (w.spawnTunnellerParty party t).value = w.peopled [digger t none] [] t.owner) ∧
    (w.spawnAllowed t.place = false ∨ w.room = 0 → (w.spawnTunnellerParty party t).value = w) := by
  rw [← w.admits_eq t.place]
  refine ⟨fun admits some_ => ?_, fun admits numbers none_ => ?_, fun nobody => ?_⟩
  · exact spawnTunnellerParty_of_escort admits some_
  · exact spawnTunnellerParty_of_alone ⟨admits, numbers⟩ none_
  · rcases nobody with barred | full
    · exact spawnTunnellerParty_of_not_receives (not_receives_of_barred barred) party
    · exact spawnTunnellerParty_of_not_receives (not_receives_of_full full _) party

/-- A tunneller of the lowest level leads a party of one that is of the highest. -/
theorem spawnTunnellerParty_musters_under_lowest :
    let party : Party := ⟨"Guards", [⟨1, 9, 50, .defendParty, 10⟩]⟩
    let t : Tunneller := ⟨4, .heart 0, .dungeon, 1, 0, 25, some 0⟩
    fresh.spawnAllowed t.place = true ∧ fresh.escort party = party.members ∧
      (fresh.spawnTunnellerParty party t).value =
        fresh.peopled
          [⟨tunnellerKind, 4, .heart 0, 25, 0, true, none, some (.dungeon, 1), some 0⟩,
            ⟨1, 4, .heart 0, 50, 9, true, some (.defendParty, 10), none, some 0⟩]
          [⟨0, [1, 0]⟩] 4 ∧
      fresh.spawnAllowed .nowhere = false ∧
      (fresh.spawnTunnellerParty party { t with place := .nowhere }).value = fresh := by
  intro party t
  have allowed : fresh.spawnAllowed t.place = true := rfl
  have all : fresh.escort party = party.members := rfl
  refine ⟨allowed, all, ?_, rfl, (fresh.spawnTunnellerParty_musters _ party).2.2 (.inl rfl)⟩
  exact (fresh.spawnTunnellerParty_musters t party).1 allowed (all ▸ List.cons_ne_nil _ _)

/-- In a crowded world a tunneller does not appear, and neither does its party, though creatures
    can appear at the place. -/
theorem spawnTunnellerParty_without_numbers :
    let party : Party := ⟨"Guards", [⟨1, 9, 50, .defendParty, 10⟩]⟩
    let t : Tunneller := ⟨4, .heart 0, .dungeon, 1, 0, 25, some 0⟩
    crowded.spawnAllowed t.place = true ∧ party.members ≠ [] ∧
      (crowded.spawnTunnellerParty party t).value = crowded ∧
      (crowded.spawnTunnellerParty party t).value.creatures.size ≠
        crowded.creatures.size + (1 + party.members.length) := by
  intro party t
  have nobody : (crowded.spawnTunnellerParty party t).value = crowded :=
    spawnTunnellerParty_of_not_receives (not_receives_of_full room_crowded t.place) party
  refine ⟨?_, List.cons_ne_nil _ _, nobody, ?_⟩
  · rw [← admits_eq, admits_crowded]
    rfl
  · rw [nobody]
    exact Nat.ne_of_lt (Nat.lt_add_of_pos_right (Nat.add_pos_left Nat.zero_lt_one _))

/-! ## Groups that spawning forms -/

theorem spawnTunneller_groups (w : World) (t : Tunneller) :
    (w.spawnTunneller t).value.1.groups = w.groups := by
  by_cases receives : w.Receives t.place
  · rw [spawnTunneller_peopled receives]
    exact w.groups_peopled_nil ..
  · rw [spawnTunneller_of_not_receives receives]

/-- The group of a tunneller that appears with a party. -/
theorem spawnTunnellerParty_groups (w : World) (t : Tunneller) (party : Party) :
    (w.spawnTunnellerParty party t).value.groups =
      if w.admits t.place = true ∧ 0 < (w.escort party).length then w.groups.push ⟨w.creatures.size,
        List.range' (w.creatures.size + 1) (w.escort party).length ++ [w.creatures.size]⟩
      else w.groups := by
  split
  · rename_i h
    rw [spawnTunnellerParty_of_escort h.1 (List.ne_nil_of_length_pos h.2)]
    exact w.groups_peopled_singleton ..
  · rename_i h
    by_cases receives : w.Receives t.place
    · have none_ : w.escort party = [] :=
        List.eq_nil_of_length_eq_zero (Nat.eq_zero_of_not_pos fun some_ => h ⟨receives.1, some_⟩)
      rw [spawnTunnellerParty_of_alone receives none_]
      exact w.groups_peopled_nil ..
    · rw [spawnTunnellerParty_of_not_receives receives]

/-- **The group of a tunneller.** Where creatures can appear, a tunneller with a party forms one
    group if members of it appear, of all that appear: first the members in their order, and last
    the tunneller, who leads. In all other cases no group is formed, and no other group changes. -/
theorem sendOut_groups (parties : List Party) (t : Tunneller) (w : World) :
    let follow := min (w.room - 1) (followers parties t)
    (sendOut parties t w).value.groups =
      if w.admits t.place = true ∧ 0 < follow then w.groups.push ⟨w.creatures.size,
        List.range' (w.creatures.size + 1) follow ++ [w.creatures.size]⟩
      else w.groups := by
  intro follow
  unfold follow sendOut followers
  cases t.party.bind (parties[·]?) with
  | none =>
    simp only [Option.map_none, Option.getD_none, Nat.min_zero]
    rw [if_neg fun h => Nat.lt_irrefl 0 h.2]
    exact w.spawnTunneller_groups t
  | some party =>
    refine (w.spawnTunnellerParty_groups t party).trans ?_
    rw [escort, List.length_take]
    rfl

end World

end DungeonScript
