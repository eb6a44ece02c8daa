import DungeonScript.Proofs.World.Membership

/-!
Who leads a group. The creature a group is made for leads it until another takes the lead, and
both are members when they come to it. But a creature that joins another group is taken off the
member list of its old one and is not replaced as its leader. So a leader need not be a member: it
is one exactly as long as the last group that it has joined is no other (`leader_listed_iff`).

The joinings of a row of operations are gathered with the world (`joinings`); what one operation
does to groups and their leaders is `Regrouped`, and `Headed` carries it through the row.
-/

namespace DungeonScript

namespace World

/-! ## Joinings -/

/-- The creature that joins another in an operation, with the group where it is then. -/
def joinedIn (w : World) : Operation → Option (Nat × Nat)
  | .join id member => (w.join id member).2.map (id, ·)
  | .lead id member => (w.join id member).2.map (id, ·)
  | _ => none

/-- All joinings of a row of operations, in their order. -/
def joinings (w : World) : List Operation → List (Nat × Nat)
  | [] => []
  | op :: rest => (w.joinedIn op).toList ++ (w.perform op).joinings rest

/-- The group that a creature has joined last. -/
def lastJoined (joinings : List (Nat × Nat)) (id : Nat) : Option Nat :=
  ((joinings.filter (·.1 == id)).getLast?).map (·.2)

theorem lastJoined_concat (joinings : List (Nat × Nat)) (joined : Nat × Nat) (id : Nat) :
    lastJoined (joinings ++ [joined]) id =
      if joined.1 = id then some joined.2 else lastJoined joinings id := by
  unfold lastJoined
  rw [List.filter_append, List.filter_singleton]
  by_cases same : joined.1 = id
  · simp [same]
  · have other : (joined.1 == id) = false := beq_false_of_ne same
    rw [other, if_neg same, cond_false, List.append_nil]

/-- The last group that the creature has joined is another one than `g`. -/
def Strayed (joinings : List (Nat × Nat)) (id g : Nat) : Prop :=
  ∃ other, lastJoined joinings id = some other ∧ other ≠ g

/-! ## Leaders -/

/-- The leader of a group, if the group is there. -/
def leaderAt (w : World) (g : Nat) : Option Nat := (w.groups[g]?).map (·.leader)

theorem leaderAt_onGroup (w : World) (g : Nat) {f : Group → Group}
    (same : ∀ grp, (f grp).leader = grp.leader) : (w.onGroup g f).leaderAt = w.leaderAt := by
  funext j
  show ((w.groups.modify g f)[j]?).map (·.leader) = (w.groups[j]?).map (·.leader)
  rw [Array.getElem?_modify]
  split
  · cases w.groups[j]? with
    | none => rfl
    | some grp => exact congrArg some (same grp)
  · rfl

theorem leaderAt_moved (w : World) (id : Nat) (old : Option Nat) (g : Nat) :
    (w.moved id old g).leaderAt = w.leaderAt := by
  have left : (w.leave id old).leaderAt = w.leaderAt := by
    cases old with
    | none => rfl
    | some g => exact w.leaderAt_onGroup g fun _ => rfl
  exact ((w.leave id old).leaderAt_onGroup g
    (f := fun grp => { grp with members := grp.members ++ [id] }) fun _ => rfl).trans left

theorem leaderAt_founded (w : World) (x j : Nat) :
    (w.founded x).leaderAt j = if j = w.groups.size then some x else w.leaderAt j := by
  show ((w.groups.push _)[j]?).map (·.leader) = _
  rw [Array.getElem?_push]
  split <;> rfl

/-- Somebody takes the lead of a group, or would if the group were there. -/
theorem leaderAt_led (w : World) (g leader j : Nat) :
    (w.onGroup g fun grp => { grp with leader }).leaderAt j =
      if j = g then (w.leaderAt j).map fun _ => leader else w.leaderAt j := by
  show ((w.groups.modify g _)[j]?).map (·.leader) = _
  rw [Array.getElem?_modify]
  by_cases same : j = g
  · subst same
    rw [if_pos rfl, if_pos rfl, leaderAt, Option.map_map, Option.map_map]
    rfl
  · rw [if_neg fun h => same h.symm, if_neg same]
    rfl

/-! ## One operation -/

/-- What an operation does to groups that are led, in which `joined` is what there is of joining:
    only the creature that joins changes groups, to the one that it joins, and whoever has become
    the leader of a group is in it. -/
structure Regrouped (w : World) (joined : Option (Nat × Nat)) (w' : World) : Prop where
  arrives : ∀ id g, joined = some (id, g) → w'.groupAt id = some (some g)
  stays : ∀ id g, (∀ other, joined ≠ some (id, other)) → w.groupAt id = some (some g) →
    w'.groupAt id = some (some g)
  leads : ∀ g leader, w'.leaderAt g = some leader →
    w.leaderAt g = some leader ∨ w'.groupAt leader = some (some g)

namespace Regrouped

variable {w w' : World}

theorem of_grouping (same : w'.grouping = w.grouping) : Regrouped w none w' := by
  obtain ⟨groups, groupAt⟩ := Prod.ext_iff.1 same
  have groups : w'.groups = w.groups := groups
  have groupAt : w'.groupAt = w.groupAt := groupAt
  refine ⟨nofun, fun id g _ here => ?_, fun g leader here => .inl ?_⟩
  · rw [groupAt]
    exact here
  · unfold leaderAt at here ⊢
    rwa [groups] at here

theorem oneMore (more : OneMore w w') : Regrouped w none w' := by
  refine ⟨nofun, fun id g _ here => ?_, fun g leader here => .inl ?_⟩
  · rw [more.others id (lt_of_groupAt here)]
    exact here
  · unfold leaderAt at here ⊢
    rwa [more.groups] at here

theorem found {member g : Nat} (found : Found w member w' g) : Regrouped w none w' := by
  cases found with
  | already _ => exact ⟨nofun, fun _ _ _ here => here, fun _ _ here => .inl here⟩
  | made alone =>
    refine ⟨nofun, fun id g _ here => ?_, fun g leader here => ?_⟩
    · have other : id ≠ member := by
        rintro rfl
        cases alone.symm.trans here
      rw [groupAt_founded alone, if_neg other]
      exact here
    · rw [leaderAt_founded] at here
      split at here
      · rename_i new
        obtain rfl := Option.some.inj here
        exact .inr (by rw [groupAt_founded alone, if_pos rfl, new])
      · exact .inl here

theorem inside {id g : Nat} (before : Regrouped w none w')
    (inside : w'.groupAt id = some (some g)) : Regrouped w (some (id, g)) w' := by
  refine ⟨fun x h joined => ?_, fun x h _ here => before.stays x h nofun here, before.leads⟩
  obtain ⟨rfl, rfl⟩ := Prod.mk.inj (Option.some.inj joined)
  exact inside

theorem moves {member id g : Nat} {old : Option Nat} (found : Found w member w' g)
    (here : w'.groupAt id = some old) (apart : old ≠ some g) :
    Regrouped w (some (id, g)) (w'.moved id old g) := by
  have before := Regrouped.found found
  have remain (x h : Nat) (other : x ≠ id) (there : w'.groupAt x = some (some h)) :
      (w'.moved id old g).groupAt x = some (some h) := by
    rw [groupAt_moved here, if_neg other]
    exact there
  refine ⟨fun x h joined => ?_, fun x h others there => ?_, fun h leader led => ?_⟩
  · obtain ⟨rfl, rfl⟩ := Prod.mk.inj (Option.some.inj joined)
    rw [groupAt_moved here, if_pos rfl]
  · have other : x ≠ id := by
      rintro rfl
      exact others g rfl
    exact remain x h other (before.stays x h nofun there)
  · rw [leaderAt_moved] at led
    cases found with
    | already _ => exact .inl led
    | made alone =>
      rw [leaderAt_founded] at led
      split at led
      · -- the group was made for `member`, which is in it and so is not the one that moves
        rename_i new
        obtain rfl := Option.some.inj led
        subst new
        have inside := (Found.made alone).inside
        have other : member ≠ id := by
          rintro rfl
          exact apart (Option.some.inj (here.symm.trans inside))
        exact .inr (remain member _ other inside)
      · exact .inl led

theorem join (w : World) (id member : Nat) :
    Regrouped w ((w.join id member).2.map (id, ·)) (w.join id member).1 := by
  generalize result : w.join id member = r
  have joined := w.join_joined id member
  rw [result] at joined
  cases joined with
  | nobody _ => exact .of_grouping rfl
  | absent found _ => exact .found found
  | inside found inside => exact (Regrouped.found found).inside inside
  | moves found here apart => exact .moves found here apart

theorem led {id g : Nat} (joins : Regrouped w (some (id, g)) w') :
    Regrouped w (some (id, g)) (w'.onGroup g fun grp => { grp with leader := id }) := by
  refine ⟨joins.arrives, joins.stays, fun h leader led => ?_⟩
  rw [leaderAt_led] at led
  split at led
  · rename_i same
    obtain ⟨_, _, rfl⟩ := Option.map_eq_some_iff.1 led
    exact .inr (joins.arrives id h (by rw [same]))
  · exact joins.leads h leader led

end Regrouped

theorem regrouped_perform (w : World) (op : Operation) :
    Regrouped w (w.joinedIn op) (w.perform op) := by
  cases regroups : op.regroups with
  | false =>
    have nobody : w.joinedIn op = none := by
      cases op with
      | join | lead => cases regroups
      | _ => rfl
    rw [nobody]
    exact .of_grouping (w.grouping_perform regroups)
  | true =>
    cases op with
    | create owner kind place =>
      show Regrouped w none (w.createCreature owner kind place).1
      unfold createCreature
      split
      · exact .oneMore (w.createCreature_oneMore owner kind place)
      · exact .of_grouping rfl
    | join id member => exact .join w id member
    | lead id member =>
      have joins := Regrouped.join w id member
      show Regrouped w ((w.join id member).2.map (id, ·)) (w.addAsLeader id member)
      unfold addAsLeader
      split
      · rename_i result
        rw [result] at joins ⊢
        exact joins.led
      · rename_i result
        rw [result] at joins ⊢
        exact joins
    | _ => cases regroups

/-! ## Rows of operations -/

/-- Groups are led, after these joinings: a creature that has joined a group is in the one that it
    has joined last, and a leader is in its group or has strayed from it. -/
structure Headed (w : World) (joinings : List (Nat × Nat)) : Prop where
  last : ∀ id g, lastJoined joinings id = some g → w.groupAt id = some (some g)
  leads : ∀ g leader, w.leaderAt g = some leader →
    w.groupAt leader = some (some g) ∨ Strayed joinings leader g

namespace Headed

variable {w w' : World} {joinings : List (Nat × Nat)}

theorem of_uninhabited (bare : w.Uninhabited) : Headed w [] := by
  refine ⟨nofun, fun g leader here => ?_⟩
  have none : w.leaderAt g = none := by simp [leaderAt, bare.groups]
  cases none.symm.trans here

theorem step (headed : Headed w joinings) {joined : Option (Nat × Nat)}
    (regrouped : Regrouped w joined w') : Headed w' (joinings ++ joined.toList) := by
  cases joined with
  | none =>
    rw [Option.toList_none, List.append_nil]
    refine ⟨fun id g last => ?_, fun g leader here => ?_⟩
    · exact regrouped.stays id g nofun (headed.last id g last)
    · rcases regrouped.leads g leader here with before | inside
      · exact (headed.leads g leader before).imp_left (regrouped.stays leader g nofun)
      · exact .inl inside
  | some joined =>
    obtain ⟨id, g⟩ := joined
    have stays (x h : Nat) (other : ¬ id = x) (there : w.groupAt x = some (some h)) :
        w'.groupAt x = some (some h) := by
      refine regrouped.stays x h (fun _ joined => ?_) there
      exact other (Prod.mk.inj (Option.some.inj joined)).1
    have arrives := regrouped.arrives id g rfl
    rw [Option.toList_some]
    refine ⟨fun x h last => ?_, fun h leader here => ?_⟩
    · rw [lastJoined_concat] at last
      split at last
      · rename_i same
        obtain rfl := Option.some.inj last
        exact same ▸ arrives
      · rename_i other
        exact stays x h other (headed.last x h last)
    · rcases regrouped.leads h leader here with before | inside
      · by_cases same : id = leader
        · -- whatever it was, the leader is now where it has just gone
          subst same
          by_cases home : g = h
          · exact .inl (home ▸ arrives)
          · exact .inr ⟨g, by rw [lastJoined_concat, if_pos rfl], home⟩
        · refine (headed.leads h leader before).imp (stays leader h same) ?_
          rintro ⟨other, last, apart⟩
          exact ⟨other, by rw [lastJoined_concat, if_neg same, last], apart⟩
      · exact .inl inside

theorem performAll (headed : Headed w joinings) (ops : List Operation) :
    Headed (w.performAll ops) (joinings ++ w.joinings ops) := by
  induction ops generalizing w joinings with
  | nil =>
    rw [World.joinings, List.append_nil]
    exact headed
  | cons op rest ih =>
    rw [World.joinings, ← List.append_assoc]
    exact ih (headed.step (w.regrouped_perform op))

/-- A leader is in the group it leads exactly if it has not strayed from it. -/
theorem inside_iff (headed : Headed w joinings) {g leader : Nat}
    (leads : w.leaderAt g = some leader) :
    w.groupAt leader = some (some g) ↔ ¬ Strayed joinings leader g := by
  refine ⟨?_, (headed.leads g leader leads).resolve_right⟩
  rintro inside ⟨other, last, apart⟩
  have both := (headed.last leader other last).symm.trans inside
  exact apart (Option.some.inj (Option.some.inj both))

theorem groupAt_leader (headed : Headed w joinings) {g leader : Nat}
    (leads : w.leaderAt g = some leader) : ∃ home, w.groupAt leader = some (some home) := by
  rcases headed.leads g leader leads with inside | ⟨other, last, _⟩
  · exact ⟨g, inside⟩
  · exact ⟨other, headed.last leader other last⟩

end Headed

/-- **Leaders and members.** After any operations on a world that nobody was in, the leader of a
    group is a creature, and it is a member of the group if and only if the last group that it has
    joined, if it has joined any, is this one. This decides for every member whether the leader it
    has is in the same group. -/
theorem leader_listed_iff {w : World} (bare : w.Uninhabited) (ops : List Operation) {g : Nat}
    {grp : Group} (here : (w.performAll ops).groups[g]? = some grp) :
    grp.leader < (w.performAll ops).creatures.size ∧
      (grp.leader ∈ grp.members ↔ ¬ Strayed (w.joinings ops) grp.leader g) ∧
      ∀ id ∈ grp.members, (w.performAll ops).leaderOf? id = some grp.leader ∧
        ((w.performAll ops).groupAt grp.leader = (w.performAll ops).groupAt id ↔
          ¬ Strayed (w.joinings ops) grp.leader g) := by
  have agree := (GroupsAgree.of_uninhabited bare).performAll ops
  have headed := (Headed.of_uninhabited bare).performAll ops
  rw [List.nil_append] at headed
  generalize w.performAll ops = w' at here agree headed
  have leads : w'.leaderAt g = some grp.leader := by rw [leaderAt, here, Option.map_some]
  have roster : w'.roster g = grp.members := by rw [roster, here, Option.map_some, Option.getD_some]
  obtain ⟨home, there⟩ := headed.groupAt_leader leads
  refine ⟨lt_of_groupAt there, ?_, fun id member => ?_⟩
  · rw [← roster, ← agree.inside]
    exact headed.inside_iff leads
  · have inside := (agree.inside id g).2 (roster ▸ member)
    obtain ⟨c, found, group⟩ := Option.map_eq_some_iff.1 inside
    refine ⟨?_, ?_⟩
    · simp [leaderOf?, found, group, here]
    · rw [inside]
      exact headed.inside_iff leads

/-- The creature that a group was made for joins another and still leads the first. -/
theorem leader_listed_iff_departed :
    let ops : List Operation := [.create 0 1 (.heart 0), .create 0 1 (.heart 0),
      .create 0 1 (.heart 0), .join 1 0, .join 0 2]
    fresh.Uninhabited ∧ (fresh.performAll ops).groups[0]? = some ⟨0, [1]⟩ ∧
      Strayed (fresh.joinings ops) 0 0 ∧ (fresh.performAll ops).leaderOf? 1 = some 0 ∧
      (fresh.performAll ops).groupAt 0 ≠ (fresh.performAll ops).groupAt 1 := by
  intro ops
  have here : (fresh.performAll ops).groups[0]? = some ⟨0, [1]⟩ := by rfl
  have strayed : Strayed (fresh.joinings ops) 0 0 := ⟨1, by rfl, by decide⟩
  obtain ⟨_, _, followers⟩ := leader_listed_iff fresh_uninhabited ops here
  obtain ⟨leads, together⟩ := followers 1 (List.mem_singleton_self 1)
  exact ⟨fresh_uninhabited, here, strayed, leads, fun same => together.1 same strayed⟩

end World

end DungeonScript
