import DungeonScript.Proofs.World.Peopled

/-!
Parties that appear. The members of a party appear one by one, and each meets those before it. Where
there is one, it stands alone; the second makes a group with the first, and all others join that
group. Whoever is higher than all before takes the lead, so that it is the first of the highest who
leads in the end (`captain`). This is `mustered`, which `meet_approached` takes from one member to
the next, and `spawnMembers_of_admits` through all of them for whom there is a number. Copies of a
party follow one another (`spawnParty_musters`); where the numbers run out, the members of a copy
that still get one are its first ones (`arrivals`).
-/

namespace DungeonScript

/-! ## Who leads a party -/

namespace Member

def highestLevel (ms : List Member) : Nat := ms.foldl (fun top m => max top m.level) 0

/-- The place of the member that leads: the first of those with the highest level. -/
def captain (ms : List Member) : Nat := ms.findIdx (·.level == highestLevel ms)

theorem highestLevel_concat (ms : List Member) (m : Member) :
    highestLevel (ms ++ [m]) = max (highestLevel ms) m.level := by
  rw [highestLevel, List.foldl_append]
  rfl

theorem max?_levels {ms : List Member} (some_ : ms ≠ []) :
    (ms.map (·.level)).max? = some (highestLevel ms) := by
  cases ms with
  | nil => exact absurd rfl some_
  | cons m rest =>
    rw [List.map_cons, List.max?_cons', List.foldl_map]
    simp [highestLevel]

theorem highestLevel_spec {ms : List Member} (some_ : ms ≠ []) :
    (∃ m ∈ ms, m.level = highestLevel ms) ∧ ∀ m ∈ ms, m.level ≤ highestLevel ms := by
  obtain ⟨here, above⟩ := List.max?_eq_some_iff.1 (max?_levels some_)
  exact ⟨List.mem_map.1 here, fun m member => above _ (List.mem_map_of_mem member)⟩

theorem captain_lt {ms : List Member} (some_ : ms ≠ []) : captain ms < ms.length := by
  obtain ⟨m, member, top⟩ := (highestLevel_spec some_).1
  exact List.findIdx_lt_length_of_exists ⟨m, member, beq_iff_eq.2 top⟩

theorem captain_singleton (m : Member) : captain [m] = 0 :=
  Nat.lt_one_iff.1 (captain_lt (List.cons_ne_nil m []))

theorem captain_concat_of_le {ms : List Member} {m : Member} (some_ : ms ≠ [])
    (below : m.level ≤ highestLevel ms) : captain (ms ++ [m]) = captain ms := by
  have same : highestLevel (ms ++ [m]) = highestLevel ms := by
    rw [highestLevel_concat]
    omega
  rw [captain, same, List.findIdx_append]
  exact if_pos (captain_lt some_)

theorem captain_concat_of_lt {ms : List Member} {m : Member} (some_ : ms ≠ [])
    (above : highestLevel ms < m.level) : captain (ms ++ [m]) = ms.length := by
  have higher : highestLevel (ms ++ [m]) = m.level := by
    rw [highestLevel_concat]
    omega
  have nobody : ms.findIdx (·.level == m.level) = ms.length := by
    refine List.findIdx_eq_length.2 fun x member => beq_false_of_ne ?_
    have := (highestLevel_spec some_).2 x member
    omega
  rw [captain, higher, List.findIdx_append, nobody, if_neg (Nat.lt_irrefl _)]
  simp

end Member

open Member

namespace World

/-! ## The members of one party -/

/-- A member of a party as it stands in the world. -/
def recruit (w : World) (owner : Player) (place : Place) (group : Option Nat) (m : Member) :
    Creature :=
  ⟨m.kind, owner, place, m.gold, m.level, true, some (m.objective, w.countdownEnd m.countdown),
    none, group⟩

/-- The members of a party as they stand in the world: in a group of this number if there are two
    or more of them. -/
def ranks (w : World) (owner : Player) (place : Place) (ms : List Member) (g : Nat) :
    List Creature :=
  ms.map (w.recruit owner place (if 1 < ms.length then some g else none))

/-- The group of the members of a party, numbered from `first` on, if there are two or more of
    them, and the place of the one that leads. -/
def formation (ms : List Member) (leader first : Nat) : List Group :=
  if 1 < ms.length then [⟨first + leader, List.range' first ms.length⟩] else []

/-- The world once these members of a party have appeared, under one of them. -/
def mustered (w : World) (owner : Player) (place : Place) (ms : List Member) (leader : Nat) : World :=
  w.peopled (w.ranks owner place ms w.groups.size) (formation ms leader w.creatures.size) owner

/-- The world once the next member has appeared, which is alone so far. -/
def approached (w : World) (owner : Player) (place : Place) (ms : List Member) (m : Member) : World :=
  w.peopled (w.ranks owner place ms w.groups.size ++ [w.recruit owner place none m])
    (formation ms (captain ms) w.creatures.size) owner

section Muster

variable {w : World} {owner : Player} {place : Place} {ms : List Member} {m : Member}

theorem ranks_of_many (many : 1 < ms.length) (g : Nat) :
    w.ranks owner place ms g = ms.map (w.recruit owner place (some g)) := by
  rw [ranks, if_pos many]

/-- Where there is no group, its number does not matter. -/
theorem ranks_congr {g g' : Nat} (same : 1 < ms.length → g = g') :
    w.ranks owner place ms g = w.ranks owner place ms g' := by
  unfold ranks
  split
  · rename_i many
    rw [same many]
  · rfl

theorem formation_congr {leader first first' : Nat} (same : 1 < ms.length → first = first') :
    formation ms leader first = formation ms leader first' := by
  unfold formation
  split
  · rename_i many
    rw [same many]
  · rfl

theorem formation_of_many (many : 1 < ms.length) (leader first : Nat) :
    formation ms leader first = [⟨first + leader, List.range' first ms.length⟩] := if_pos many

theorem length_ranks (w : World) (owner : Player) (place : Place) (ms : List Member) (g : Nat) :
    (w.ranks owner place ms g).length = ms.length := List.length_map _

theorem size_creatures_mustered (w : World) (owner : Player) (place : Place) (ms : List Member)
    (leader : Nat) : (w.mustered owner place ms leader).creatures.size =
      w.creatures.size + ms.length := by
  rw [mustered, size_creatures_peopled, length_ranks]

theorem room_mustered (w : World) (owner : Player) (place : Place) (ms : List Member)
    (leader : Nat) : (w.mustered owner place ms leader).room = w.room - ms.length := by
  rw [mustered, room_peopled, length_ranks]

theorem admits_mustered (w : World) (owner : Player) (place : Place) (ms : List Member)
    (leader : Nat) : (w.mustered owner place ms leader).admits place = w.admits place :=
  admits_peopled ..

theorem one_lt_length_concat (some_ : ms ≠ []) (m : Member) : 1 < (ms ++ [m]).length := by
  have := List.length_pos_iff.2 some_
  rw [List.length_append, List.length_singleton]
  omega

/-! ### The next member joins -/

theorem getElem?_ranks_concat (g : Nat) (c : Creature) {i : Nat} (here : i < ms.length) :
    (w.ranks owner place ms g ++ [c])[i]? =
      some (w.recruit owner place (if 1 < ms.length then some g else none) ms[i]) := by
  have inside : i < (w.ranks owner place ms g).length :=
    Nat.lt_of_lt_of_eq here (length_ranks ..).symm
  rw [List.getElem?_append_left inside, ranks, List.getElem?_map, List.getElem?_eq_getElem here]
  rfl

theorem getElem?_ranks_last (g : Nat) (c : Creature) :
    (w.ranks owner place ms g ++ [c])[ms.length]? = some c := by
  rw [← length_ranks w owner place ms g]
  exact List.getElem?_concat_length

/-- The next member joins any of those before it, under whom they were. -/
theorem join_approached {before : Nat} (here : before < ms.length) :
    (w.approached owner place ms m).join (w.creatures.size + ms.length)
        (w.creatures.size + before) =
      (w.mustered owner place (ms ++ [m]) (captain ms), some w.groups.size) := by
  have more := one_lt_length_concat (List.ne_nil_of_length_pos (Nat.zero_lt_of_lt here)) m
  rw [approached, mustered, formation_of_many more, ranks_of_many more]
  rcases Nat.lt_or_ge 1 ms.length with many | few
  · have inside : (w.ranks owner place ms w.groups.size ++
        [w.recruit owner place none m])[before]?.map (·.group) = some (some (w.groups.size + 0)) := by
      rw [getElem?_ranks_concat _ _ here, if_pos many]
      rfl
    have free : (w.ranks owner place ms w.groups.size ++
        [w.recruit owner place none m])[ms.length]?.map (·.group) = some none := by
      rw [getElem?_ranks_last]
      rfl
    have enlisted : (w.ranks owner place ms w.groups.size ++
        [w.recruit owner place none m]).modify ms.length
          (fun c => { c with group := some (w.groups.size + 0) }) =
            (ms ++ [m]).map (w.recruit owner place (some w.groups.size)) := by
      rw [← length_ranks w owner place ms w.groups.size, modify_concat, ranks_of_many many,
        List.map_append]
      rfl
    have listed : List.range' w.creatures.size (ms ++ [m]).length =
        List.range' w.creatures.size ms.length ++ [w.creatures.size + ms.length] := by
      rw [List.length_append, List.length_singleton, List.range'_concat, Nat.one_mul]
    rw [w.join_peopled_of_inside inside free, enlisted, formation_of_many many, listed]
    rfl
  · obtain ⟨a, rfl⟩ := List.length_eq_one_iff.1 (Nat.le_antisymm few (Nat.zero_lt_of_lt here))
    obtain rfl : before = 0 := Nat.lt_one_iff.1 here
    rw [captain_singleton]
    exact w.join_peopled_of_alone Nat.zero_ne_one rfl rfl

/-- One of the members takes the lead. -/
theorem lead_mustered (many : 1 < ms.length) (old new : Nat) :
    (w.mustered owner place ms old).onGroup w.groups.size
      (fun grp => { grp with leader := w.creatures.size + new }) = w.mustered owner place ms new := by
  refine (w.onGroup_peopled _ _ owner 0 _).trans ?_
  rw [mustered, formation_of_many many, formation_of_many many]
  rfl

/-! ### The next member is compared -/

theorem levelOf_newcomer :
    (w.approached owner place ms m).levelOf (w.creatures.size + ms.length) = m.level := by
  rw [levelOf, approached, creature?_peopled, getElem?_ranks_last]
  rfl

theorem map_levelOf_approached : (List.range' w.creatures.size ms.length).map
    (w.approached owner place ms m).levelOf = ms.map (·.level) := by
  refine List.ext_getElem (by simp) fun i _ here => ?_
  have here : i < ms.length := by simpa using here
  rw [List.getElem_map, List.getElem_range', List.getElem_map, Nat.one_mul, levelOf, approached,
    creature?_peopled, getElem?_ranks_concat _ _ here]
  rfl

/-- What a group is taken for is the highest level of those that are in it. -/
theorem topLevelOf_approached {before : Nat} (here : before < ms.length) :
    (w.approached owner place ms m).topLevelOf (w.creatures.size + before) = highestLevel ms := by
  have there : (w.approached owner place ms m).creature? (w.creatures.size + before) =
      some (w.recruit owner place (if 1 < ms.length then some w.groups.size else none) ms[before]) := by
    rw [approached, creature?_peopled, getElem?_ranks_concat _ _ here]
  unfold topLevelOf
  rw [there]
  rcases Nat.lt_or_ge 1 ms.length with many | few
  · have group : (w.approached owner place ms m).groups[w.groups.size]? =
        some ⟨w.creatures.size + captain ms, List.range' w.creatures.size ms.length⟩ := by
      rw [approached, formation_of_many many]
      exact w.group?_peopled _ _ owner 0
    have some_ : ms ≠ [] := List.ne_nil_of_length_pos (Nat.zero_lt_of_lt here)
    simp [recruit, many, group, map_levelOf_approached, max?_levels some_]
  · obtain ⟨a, rfl⟩ := List.length_eq_one_iff.1 (Nat.le_antisymm few (Nat.zero_lt_of_lt here))
    obtain rfl : before = 0 := Nat.lt_one_iff.1 here
    simp [recruit, highestLevel]

/-- The next member meets those before it, and leads them if it is above them all. -/
theorem meet_approached {before : Nat} (here : before < ms.length) :
    (w.approached owner place ms m).meet (w.creatures.size + ms.length)
        (some (w.creatures.size + before)) (some (w.creatures.size + captain ms)) =
      (w.mustered owner place (ms ++ [m]) (captain (ms ++ [m])),
        some (w.creatures.size + captain (ms ++ [m]))) := by
  have some_ : ms ≠ [] := List.ne_nil_of_length_pos (Nat.zero_lt_of_lt here)
  simp only [meet, addToGroup, addAsLeader, levelOf_newcomer, topLevelOf_approached here,
    join_approached here]
  rcases Nat.lt_or_ge (highestLevel ms) m.level with above | below
  · rw [if_neg (Nat.not_le.2 above), captain_concat_of_lt some_ above,
      lead_mustered (one_lt_length_concat some_ m)]
  · rw [if_pos below, captain_concat_of_le some_ below]

end Muster

/-! ### All members -/

section Parties

variable {w : World} {place : Place} (owner : Player)

/-- Where a creature appears, the first member of a party does, and meets who was there. -/
theorem spawnMembers_cons_of_receives (receives : w.Receives place) (m : Member)
    (rest : List Member) (previous leader : Option Nat) :
    (spawnMembers owner place (m :: rest) previous leader w).value =
      let met := (w.peopled [w.recruit owner place none m] [] owner).meet w.creatures.size previous
        leader
      (spawnMembers owner place rest (some w.creatures.size) met.2 met.1).value := by
  have stands : (w.peopled [⟨m.kind, owner, place, m.gold, m.level, true, none, none, none⟩] []
      owner).setObjective w.creatures.size m.objective (w.countdownEnd m.countdown) =
        w.peopled [w.recruit owner place none m] [] owner :=
    w.onCreature_peopled _ [] owner 0 _
  rw [spawnMembers, Logged.value_bind, spawnCreature_peopled receives]
  simp only [← stands]
  rfl

theorem spawnMembers_of_not_receives (not : ¬w.Receives place) (ms : List Member)
    (previous leader : Option Nat) :
    (spawnMembers owner place ms previous leader w).value = (w, leader) := by
  induction ms with
  | nil => rfl
  | cons m rest ih =>
    rw [spawnMembers, Logged.value_bind, spawnCreature_of_not_receives not]
    exact ih

theorem spawnMembers_mustered (admits : w.admits place = true) (rest : List Member) :
    ∀ {ms : List Member} {before : Nat}, before < ms.length → ms.length ≤ w.room →
      (spawnMembers owner place rest (some (w.creatures.size + before))
          (some (w.creatures.size + captain ms)) (w.mustered owner place ms (captain ms))).value =
        let all := ms ++ rest.take (w.room - ms.length)
        (w.mustered owner place all (captain all), some (w.creatures.size + captain all)) := by
  -- along the members that are still to come; each joins those that are there by then, until
  -- there is no number for the next
  induction rest with
  | nil =>
    intro ms before _ _
    simp only [List.take_nil, List.append_nil]
    rfl
  | cons m rest ih =>
    intro ms before here numbered
    let v := w.mustered owner place ms (captain ms)
    have admits' : v.admits place = true := (w.admits_mustered ..).trans admits
    have size : v.creatures.size = w.creatures.size + ms.length := size_creatures_mustered ..
    have room : v.room = w.room - ms.length := room_mustered ..
    rcases Nat.lt_or_eq_of_le numbered with numbers | last
    · have receives : v.Receives place := ⟨admits', by omega⟩
      have arrives : v.peopled [v.recruit owner place none m] [] owner =
          w.approached owner place ms m := by
        refine (w.peopled_peopled _ _ owner _ _).trans ?_
        rw [List.append_nil]
        rfl
      have grown : (ms ++ [m]).length = ms.length + 1 := by
        rw [List.length_append, List.length_singleton]
      have later := ih (Nat.lt_of_lt_of_eq (Nat.lt_succ_self _) grown.symm)
        (Nat.le_trans (Nat.le_of_eq grown) numbers)
      have taken : (m :: rest).take (w.room - ms.length) =
          m :: rest.take (w.room - (ms ++ [m]).length) := by
        rw [List.take_cons (by omega), grown, Nat.sub_add_eq]
      rw [spawnMembers_cons_of_receives owner receives, taken]
      simp only [arrives, size, meet_approached here]
      rw [List.append_assoc] at later
      exact later
    · have full : v.room = 0 := by omega
      rw [spawnMembers_of_not_receives owner (not_receives_of_full full place), ← last,
        Nat.sub_self, List.take_zero, List.append_nil]

/-- The members of a party that there are numbers for appear one after the other, and the first of
    the highest leads. -/
theorem spawnMembers_of_admits (admits : w.admits place = true) {ms : List Member}
    (some_ : ms.take w.room ≠ []) :
    (spawnMembers owner place ms none none w).value =
      (w.mustered owner place (ms.take w.room) (captain (ms.take w.room)),
        some (w.creatures.size + captain (ms.take w.room))) := by
  cases ms with
  | nil => exact absurd List.take_nil some_
  | cons m rest =>
    have numbers : 0 < w.room := by
      refine Nat.pos_of_ne_zero fun full => some_ ?_
      rw [full, List.take_zero]
    have first : 0 < [m].length := Nat.zero_lt_one
    have later := spawnMembers_mustered owner admits rest first numbers
    rw [captain_singleton] at later
    rw [spawnMembers_cons_of_receives owner ⟨admits, numbers⟩, List.take_cons numbers]
    exact later

/-- Where no member of a party appears, nothing changes and nobody leads. -/
theorem spawnMembers_of_nobody {ms : List Member}
    (nobody : w.admits place = false ∨ ms.take w.room = []) :
    (spawnMembers owner place ms none none w).value = (w, none) := by
  rcases nobody with barred | none_
  · exact spawnMembers_of_not_receives owner (not_receives_of_barred barred) ms none none
  · rcases List.take_eq_nil_iff.1 none_ with full | rfl
    · exact spawnMembers_of_not_receives owner (not_receives_of_full full place) ms none none
    · rfl

end Parties

/-! ## Copies of a party -/

/-- The world once the members of one copy have appeared for whom there are numbers. -/
def afterCopy (w : World) (owner : Player) (place : Place) (ms : List Member) : World :=
  w.mustered owner place (ms.take w.room) (captain (ms.take w.room))

/-- The members of copy `n` of a party for whom there is a number left. -/
def arrivals (w : World) (ms : List Member) (n : Nat) : List Member :=
  ms.take (w.room - n * ms.length)

/-- The creatures of so many copies of a party, copy by copy. -/
def hosts (w : World) (owner : Player) (place : Place) (ms : List Member) (copies : Nat) :
    List Creature :=
  (List.range copies).flatMap fun n =>
    w.ranks owner place (w.arrivals ms n) (w.groups.size + n)

def squads (w : World) (ms : List Member) (copies : Nat) : List Group :=
  (List.range copies).flatMap fun n =>
    formation (w.arrivals ms n) (captain (w.arrivals ms n)) (w.creatures.size + n * ms.length)

/-- The leader of copy `n` of a party, if one of its members appears. -/
def leaderOfCopy (w : World) (ms : List Member) (n : Nat) : Option Nat :=
  if w.arrivals ms n = [] then none
  else some (w.creatures.size + n * ms.length + captain (w.arrivals ms n))

section Copies

variable (w : World) (owner : Player) (place : Place) (ms : List Member)

theorem size_creatures_afterCopy : (w.afterCopy owner place ms).creatures.size =
    w.creatures.size + (ms.take w.room).length := size_creatures_mustered ..

theorem room_afterCopy : (w.afterCopy owner place ms).room = w.room - ms.length := by
  rw [afterCopy, room_mustered, List.length_take]
  omega

theorem arrivals_zero : w.arrivals ms 0 = ms.take w.room := by
  rw [arrivals, Nat.zero_mul, Nat.sub_zero]

/-- If there are numbers for a later copy, there were for all of the first. -/
theorem take_room_of_later {n : Nat} (later : w.arrivals ms (n + 1) ≠ []) :
    ms.take w.room = ms := by
  refine List.take_of_length_le (Nat.le_of_lt ?_)
  have numbers : w.room - (n + 1) * ms.length ≠ 0 := by
    intro full
    rw [arrivals, full, List.take_zero] at later
    exact later rfl
  rw [Nat.succ_mul] at numbers
  omega

theorem arrivals_succ (n : Nat) :
    (w.afterCopy owner place ms).arrivals ms n = w.arrivals ms (n + 1) := by
  rw [arrivals, arrivals, room_afterCopy, Nat.sub_sub, Nat.succ_mul, Nat.add_comm ms.length]

theorem hosts_succ (copies : Nat) : w.hosts owner place ms (copies + 1) =
    w.ranks owner place (ms.take w.room) w.groups.size ++
      (w.afterCopy owner place ms).hosts owner place ms copies := by
  have later (n : Nat) : w.ranks owner place (w.arrivals ms (n + 1)) (w.groups.size + (n + 1)) =
      (w.afterCopy owner place ms).ranks owner place (w.arrivals ms (n + 1))
        ((w.afterCopy owner place ms).groups.size + n) := by
    refine ranks_congr fun many => ?_
    have some_ := List.ne_nil_of_length_pos (Nat.zero_lt_of_lt many)
    have many : 1 < ms.length := Nat.lt_of_lt_of_le many (List.length_take_le' _ _)
    rw [afterCopy, mustered, size_groups_peopled, w.take_room_of_later ms some_,
      formation_of_many many, List.length_singleton]
    omega
  rw [hosts, List.range_succ_eq_map, List.flatMap_cons, List.flatMap_map, arrivals_zero, hosts]
  simp only [Nat.succ_eq_add_one, later, arrivals_succ]
  rfl

theorem squads_succ (copies : Nat) : w.squads ms (copies + 1) =
    formation (ms.take w.room) (captain (ms.take w.room)) w.creatures.size ++
      (w.afterCopy owner place ms).squads ms copies := by
  have later (n : Nat) : formation (w.arrivals ms (n + 1)) (captain (w.arrivals ms (n + 1)))
      (w.creatures.size + (n + 1) * ms.length) =
        formation (w.arrivals ms (n + 1)) (captain (w.arrivals ms (n + 1)))
          ((w.afterCopy owner place ms).creatures.size + n * ms.length) := by
    refine formation_congr fun many => ?_
    have some_ := List.ne_nil_of_length_pos (Nat.zero_lt_of_lt many)
    rw [size_creatures_afterCopy, w.take_room_of_later ms some_, Nat.succ_mul]
    omega
  rw [squads, List.range_succ_eq_map, List.flatMap_cons, List.flatMap_map, arrivals_zero, squads]
  simp only [Nat.succ_eq_add_one, later, arrivals_succ, Nat.zero_mul, Nat.add_zero]

theorem leaderOfCopy_succ (n : Nat) :
    (w.afterCopy owner place ms).leaderOfCopy ms n = w.leaderOfCopy ms (n + 1) := by
  unfold leaderOfCopy
  rw [arrivals_succ]
  split
  · rfl
  · rename_i later
    rw [size_creatures_afterCopy, w.take_room_of_later ms later, Nat.succ_mul]
    congr 2
    omega

/-- One copy of a party appears, and then others do. -/
theorem peopled_afterCopy (copies : Nat) :
    (w.afterCopy owner place ms).peopled ((w.afterCopy owner place ms).hosts owner place ms copies)
        ((w.afterCopy owner place ms).squads ms copies) owner =
      w.peopled (w.hosts owner place ms (copies + 1)) (w.squads ms (copies + 1)) owner := by
  rw [hosts_succ, w.squads_succ owner place, ← peopled_peopled]
  rfl

variable {w ms}

theorem spawnMembers_world (admits : w.admits place = true) (ms : List Member) :
    (spawnMembers owner place ms none none w).value.1 = w.afterCopy owner place ms := by
  unfold afterCopy
  by_cases none_ : ms.take w.room = []
  · rw [spawnMembers_of_nobody owner (.inr none_), none_]
    exact (w.peopled_nil owner).symm
  · rw [spawnMembers_of_admits owner admits none_]

theorem spawnMembers_leader (admits : w.admits place = true) (ms : List Member) :
    (spawnMembers owner place ms none none w).value.2 = w.leaderOfCopy ms 0 := by
  rw [leaderOfCopy, arrivals_zero, Nat.zero_mul, Nat.add_zero]
  split
  · rename_i none_
    rw [spawnMembers_of_nobody owner (.inr none_)]
  · rename_i some_
    rw [spawnMembers_of_admits owner admits some_]

theorem spawnParty_of_admits (party : Party) (copies : Nat) :
    ∀ {w : World}, w.admits place = true → (spawnParty party owner place (copies + 1) w).value =
      (w.peopled (w.hosts owner place party.members (copies + 1))
        (w.squads party.members (copies + 1)) owner, w.leaderOfCopy party.members copies) := by
  -- along the copies; the world that the later ones find is the one that the first has left
  induction copies with
  | zero =>
    intro w admits
    refine Prod.ext ?_ ?_
    · rw [← peopled_afterCopy]
      exact (spawnMembers_world owner place admits party.members).trans (peopled_nil _ owner).symm
    · exact spawnMembers_leader owner place admits party.members
  | succ copies ih =>
    intro w admits
    have admits' : (w.afterCopy owner place party.members).admits place = true :=
      (w.admits_mustered ..).trans admits
    rw [spawnParty, Logged.value_bind]
    · simp only
      rw [spawnMembers_world owner place admits, ih admits', peopled_afterCopy, leaderOfCopy_succ]
    · omega

theorem spawnParty_of_barred (barred : w.admits place = false) (party : Party) (copies : Nat) :
    (spawnParty party owner place copies w).value = (w, none) := by
  induction copies with
  | zero => rfl
  | succ copies ih =>
    have nobody : (spawnMembers owner place party.members none none w).value = (w, none) :=
      spawnMembers_of_nobody owner (.inl barred)
    cases copies with
    | zero => exact nobody
    | succ copies =>
      rw [spawnParty, Logged.value_bind, nobody]
      · exact ih
      · omega

end Copies

/-- **Copies of a party.** Where the world lets creatures appear, so do the members of one or more
    copies of a party, copy by copy and in their order, behind all creatures that were there and
    with what their lines say of them: all of them, as long as there are numbers left, and from
    the last number on nobody. Two or more members of a copy form one new group, of these members
    alone, under the first of those with the highest level. Nothing else changes but the count of
    their owner's creatures, and the leader of the last copy is named if one of it has appeared.
    Elsewhere nothing changes, and nobody is named. -/
theorem spawnParty_musters (w : World) (owner : Player) (place : Place) (party : Party)
    (copies : Nat) :
    (w.spawnAllowed place = true → (spawnParty party owner place (copies + 1) w).value =
      (w.peopled (w.hosts owner place party.members (copies + 1))
        (w.squads party.members (copies + 1)) owner, w.leaderOfCopy party.members copies)) ∧
    (w.spawnAllowed place = false →
      (spawnParty party owner place (copies + 1) w).value = (w, none)) := by
  rw [← w.admits_eq place]
  constructor
  · intro admits
    exact spawnParty_of_admits owner place party copies admits
  · intro barred
    exact spawnParty_of_barred owner place barred party (copies + 1)

/-- The second of two members is the higher one and leads each of two copies. -/
theorem spawnParty_musters_under_second :
    let party : Party := ⟨"Guards", [⟨1, 0, 50, .defendParty, 10⟩, ⟨2, 3, 0, .stealGold, -10⟩]⟩
    fresh.spawnAllowed (.heart 0) = true ∧
      (spawnParty party 0 (.heart 0) 2 fresh).value =
        (fresh.peopled
          [⟨1, 0, .heart 0, 50, 0, true, some (.defendParty, 10), none, some 0⟩,
            ⟨2, 0, .heart 0, 0, 3, true, some (.stealGold, 0), none, some 0⟩,
            ⟨1, 0, .heart 0, 50, 0, true, some (.defendParty, 10), none, some 1⟩,
            ⟨2, 0, .heart 0, 0, 3, true, some (.stealGold, 0), none, some 1⟩]
          [⟨1, [0, 1]⟩, ⟨3, [2, 3]⟩] 0, some 3) ∧
      fresh.spawnAllowed .nowhere = false ∧
      (spawnParty party 0 .nowhere 2 fresh).value = (fresh, none) := by
  intro party
  have allowed : fresh.spawnAllowed (.heart 0) = true := rfl
  refine ⟨allowed, ?_, rfl, (fresh.spawnParty_musters 0 .nowhere party 1).2 rfl⟩
  exact (fresh.spawnParty_musters 0 (.heart 0) party 1).1 allowed

/-- A world whose creatures have all numbers. -/
def crowded : World :=
  fresh.peopled (.replicate creatureNumbers (newborn heroes 1 (.heart 0))) [] heroes

theorem room_crowded : crowded.room = 0 := by
  rw [crowded, room_peopled, List.length_replicate]
  rfl

theorem admits_crowded (place : Place) : crowded.admits place = fresh.admits place :=
  fresh.admits_peopled ..

/-- In a crowded world no member of a party appears, and nobody is named, though creatures can
    appear at the place. -/
theorem spawnParty_without_numbers :
    let party : Party := ⟨"Guards", [⟨1, 0, 50, .defendParty, 10⟩]⟩
    crowded.spawnAllowed (.heart 0) = true ∧ party.members ≠ [] ∧
      (spawnParty party 0 (.heart 0) 1 crowded).value = (crowded, none) ∧
      (spawnParty party 0 (.heart 0) 1 crowded).value.1.creatures.size ≠
        crowded.creatures.size + 1 * party.members.length := by
  intro party
  have nobody : (spawnParty party 0 (.heart 0) 1 crowded).value = (crowded, none) := by
    refine spawnMembers_of_nobody 0 (.inr ?_)
    rw [room_crowded, List.take_zero]
  have some_ : party.members ≠ [] := List.cons_ne_nil _ _
  refine ⟨?_, some_, nobody, ?_⟩
  · rw [← admits_eq, admits_crowded]
    rfl
  · rw [nobody, Nat.one_mul]
    exact Nat.ne_of_lt (Nat.lt_add_of_pos_right (List.length_pos_iff.2 some_))

end World

end DungeonScript
