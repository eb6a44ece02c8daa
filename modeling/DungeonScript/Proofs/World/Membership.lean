import DungeonScript.Proofs.World.Operations
import Mathlib.Data.List.Nodup

/-!
Who is in which group is kept twice: a creature knows the number of its group, and a group lists
its members. The two agree (`GroupsAgree`) where nobody is there, and every operation keeps it so
(`GroupsAgree.perform`), whichever numbers it is given. What has to be looked at is joining. It has
four outcomes (`Joined`), of which one moves a creature from its group to another: there the old
list loses exactly the number that the new one gains.
-/

namespace DungeonScript

namespace World

/-! ## Member lists -/

/-- The numbers on the member list of a group; a group that is not there lists nobody. -/
def roster (w : World) (g : Nat) : List Nat := ((w.groups[g]?).map (·.members)).getD []

theorem lt_of_mem_roster {w : World} {id g : Nat} (listed : id ∈ w.roster g) :
    g < w.groups.size := by
  by_cases there : g < w.groups.size
  · exact there
  · rw [roster, Array.getElem?_eq_none (Nat.le_of_not_lt there)] at listed
    cases listed

/-- The member list of one group changes. Nobody is put on a list that is not there. -/
theorem roster_onGroup (w : World) (g : Nat) {f : Group → Group} {m : List Nat → List Nat}
    (changes : ∀ grp, (f grp).members = m grp.members)
    (nobody : w.groups.size ≤ g → m [] = []) (j : Nat) :
    (w.onGroup g f).roster j = if j = g then m (w.roster j) else w.roster j := by
  show (((w.groups.modify g f)[j]?).map (·.members)).getD [] = _
  rw [Array.getElem?_modify]
  by_cases same : j = g
  · subst same
    rw [if_pos rfl, if_pos rfl, roster]
    cases here : w.groups[j]? with
    | none => exact (nobody (Array.getElem?_eq_none_iff.1 here)).symm
    | some grp => exact changes grp
  · rw [if_neg fun h => same h.symm, if_neg same]
    rfl

theorem roster_leave (w : World) (id : Nat) (old : Option Nat) (j : Nat) :
    (w.leave id old).roster j =
      if old = some j then (w.roster j).filter (· != id) else w.roster j := by
  cases old with
  | none => rfl
  | some g =>
    refine (w.roster_onGroup g (m := List.filter (· != id)) (fun _ => rfl) (fun _ => rfl) j).trans ?_
    simp only [Option.some.injEq, eq_comm]

theorem roster_enlist {w : World} {g : Nat} (there : g < w.groups.size) (id j : Nat) :
    (w.enlist id g).roster j = if j = g then w.roster j ++ [id] else w.roster j :=
  w.roster_onGroup g (m := (· ++ [id])) (fun _ => rfl)
    (fun missing => absurd there (Nat.not_lt.2 missing)) j

theorem roster_founded (w : World) (x j : Nat) :
    (w.founded x).roster j = if j = w.groups.size then [x] else w.roster j := by
  show (((w.groups.push _)[j]?).map (·.members)).getD [] = _
  rw [Array.getElem?_push]
  split <;> rfl

theorem groupAt_leave (w : World) (id : Nat) (old : Option Nat) :
    (w.leave id old).groupAt = w.groupAt := by
  cases old <;> rfl

theorem size_groups_leave (w : World) (id : Nat) (old : Option Nat) :
    (w.leave id old).groups.size = w.groups.size := by
  cases old with
  | none => rfl
  | some g => exact Array.size_modify

/-- A creature leaves the group it is in, if it is in one, and is put into another. -/
def moved (w : World) (id : Nat) (old : Option Nat) (g : Nat) : World := (w.leave id old).enlist id g

theorem groupAt_moved {w : World} {id : Nat} {old : Option Nat} (here : w.groupAt id = some old)
    (g j : Nat) : (w.moved id old g).groupAt j = if j = id then some (some g) else w.groupAt j := by
  unfold moved
  rw [groupAt_enlist ((congrFun (w.groupAt_leave id old) id).trans here), groupAt_leave]

theorem roster_moved {w : World} {g : Nat} (there : g < w.groups.size) (id : Nat)
    (old : Option Nat) (j : Nat) :
    (w.moved id old g).roster j =
      (if old = some j then (w.roster j).filter (· != id) else w.roster j) ++
        if j = g then [id] else [] := by
  unfold moved
  rw [roster_enlist ((w.size_groups_leave id old).symm ▸ there), roster_leave]
  split
  · rfl
  · exact (List.append_nil _).symm

/-! ## How joining comes out -/

/-- The group that `member` is in, in a world that has it: it is there already, or it is made
    because `member` is alone. -/
inductive Found (w : World) (member : Nat) : World → Nat → Prop where
  | already {g : Nat} (inside : w.groupAt member = some (some g)) : Found w member w g
  | made (alone : w.groupAt member = some none) : Found w member (w.founded member) w.groups.size

/-- How it comes out that creature `id` joins `member`. -/
inductive Joined (w : World) (id member : Nat) : World × Option Nat → Prop where
  /-- There is nobody to join. -/
  | nobody (absent : w.groupAt member = none) : Joined w id member (w, none)
  /-- There is nobody who could join. The group may have been made all the same. -/
  | absent {w' : World} {g : Nat} (found : Found w member w' g) (absent : w'.groupAt id = none) :
      Joined w id member (w', none)
  | inside {w' : World} {g : Nat} (found : Found w member w' g)
      (inside : w'.groupAt id = some (some g)) : Joined w id member (w', some g)
  | moves {w' : World} {g : Nat} (found : Found w member w' g) {old : Option Nat}
      (here : w'.groupAt id = some old) (apart : old ≠ some g) :
      Joined w id member (w'.moved id old g, some g)

theorem Found.inside {w w' : World} {member g : Nat} (found : Found w member w' g) :
    w'.groupAt member = some (some g) := by
  cases found with
  | already inside => exact inside
  | made alone => rw [groupAt_founded alone, if_pos rfl]

/-- Once the group of `member` is found, joining is about `id` alone. -/
theorem Found.joined {w w' : World} {id member g : Nat} (found : Found w member w' g)
    (same : w.join id member = w'.join id member) : Joined w id member (w.join id member) := by
  rw [same]
  cases here : w'.groupAt id with
  | none =>
    have nobody : w'.creature? id = none := Option.map_eq_none_iff.1 here
    have stays : w'.join id member = (w', none) := by
      simp only [join, groupOf_of_inside found.inside, nobody]
    rw [stays]
    exact .absent found here
  | some old =>
    by_cases inside : old = some g
    · subst inside
      obtain ⟨c, there, group⟩ := Option.map_eq_some_iff.1 here
      have stays : w'.join id member = (w', some g) := by
        simp only [join, groupOf_of_inside found.inside, there, group, if_true]
      rw [stays]
      exact .inside found here
    · rw [join_of_inside found.inside here inside]
      exact .moves found here inside

theorem join_joined (w : World) (id member : Nat) : Joined w id member (w.join id member) := by
  cases here : w.groupAt member with
  | none =>
    have nobody : w.creature? member = none := Option.map_eq_none_iff.1 here
    have stays : w.join id member = (w, none) := by simp only [join, groupOf, nobody]
    rw [stays]
    exact .nobody here
  | some group =>
    cases group with
    | none => exact Found.joined (.made here) (join_of_alone here id)
    | some g => exact Found.joined (.already here) rfl

/-! ## Agreement -/

/-- What creatures say about their groups is what groups say about their members, and no group
    lists a creature twice. -/
structure GroupsAgree (w : World) : Prop where
  inside : ∀ id g, w.groupAt id = some (some g) ↔ id ∈ w.roster g
  once : ∀ g, (w.roster g).Nodup

namespace GroupsAgree

variable {w w' : World}

theorem lt_size (agree : GroupsAgree w) {id g : Nat} (inside : w.groupAt id = some (some g)) :
    g < w.groups.size := lt_of_mem_roster ((agree.inside id g).1 inside)

theorem of_uninhabited (bare : w.Uninhabited) : GroupsAgree w := by
  have empty (g : Nat) : w.roster g = [] := by simp [roster, bare.groups]
  have nobody (id : Nat) : w.groupAt id = none := by simp [groupAt, creature?, bare.creatures]
  refine ⟨fun id g => ?_, fun g => ?_⟩
  · rw [nobody, empty]
    exact ⟨nofun, nofun⟩
  · rw [empty]
    exact List.nodup_nil

theorem of_grouping (agree : GroupsAgree w) (same : w'.grouping = w.grouping) :
    GroupsAgree w' := by
  obtain ⟨groups, groupAt⟩ := Prod.ext_iff.1 same
  have groupAt : w'.groupAt = w.groupAt := groupAt
  have roster : w'.roster = w.roster := by
    funext g
    exact congrArg (fun groups : Array Group => ((groups[g]?).map (·.members)).getD []) groups
  constructor
  · rw [groupAt, roster]
    exact agree.inside
  · rw [roster]
    exact agree.once

theorem oneMore (agree : GroupsAgree w) (more : OneMore w w') : GroupsAgree w' := by
  have roster (g : Nat) : w'.roster g = w.roster g := by
    unfold World.roster
    rw [more.groups]
  refine ⟨fun id g => ?_, fun g => (roster g).symm ▸ agree.once g⟩
  rw [roster, ← agree.inside]
  rcases Nat.lt_trichotomy id w.creatures.size with old | new | unborn
  · rw [more.others id old]
  · have before : w.groupAt id ≠ some (some g) := fun here => by
      have := lt_of_groupAt here
      omega
    subst new
    simp [more.newest, before]
  · have bound := more.size
    constructor <;> intro here <;> have := lt_of_groupAt here <;> omega

theorem founded (agree : GroupsAgree w) {x : Nat} (alone : w.groupAt x = some none) :
    GroupsAgree (w.founded x) := by
  refine ⟨fun id g => ?_, fun g => ?_⟩
  · rw [groupAt_founded alone, roster_founded]
    by_cases new : g = w.groups.size
    · subst new
      have fresh : w.groupAt id ≠ some (some w.groups.size) := fun here =>
        Nat.lt_irrefl _ (agree.lt_size here)
      by_cases same : id = x <;> simp [same, fresh]
    · rw [if_neg new, ← agree.inside]
      by_cases same : id = x
      · subst same
        simp [alone, Ne.symm new]
      · rw [if_neg same]
  · rw [roster_founded]
    split
    · exact List.nodup_singleton x
    · exact agree.once g

/-- A creature that moves is taken off the one list it is on, and put on another. -/
theorem moved (agree : GroupsAgree w) {id g : Nat} {old : Option Nat}
    (here : w.groupAt id = some old) (there : g < w.groups.size) :
    GroupsAgree (w.moved id old g) := by
  have listed (j : Nat) : id ∈ w.roster j ↔ old = some j := by
    rw [← agree.inside, here, Option.some.injEq]
  -- on each list the creature is struck out, if it is on it, before it is added to the new one
  have lists (j : Nat) : (w.moved id old g).roster j =
      (w.roster j).filter (· != id) ++ if j = g then [id] else [] := by
    rw [roster_moved there]
    split
    · rfl
    · rename_i elsewhere
      have kept : (w.roster j).filter (· != id) = w.roster j := by
        refine List.filter_eq_self.2 fun x inside => ?_
        have other : x ≠ id := by
          rintro rfl
          exact elsewhere ((listed j).1 inside)
        simp [other]
      rw [kept]
  refine ⟨fun x j => ?_, fun j => ?_⟩
  · rw [groupAt_moved here, lists, List.mem_append, List.mem_filter]
    by_cases same : x = id
    · subst same
      by_cases new : j = g
      · simp [new]
      · simp [new, Ne.symm new]
    · rw [if_neg same, agree.inside]
      split <;> simp [same]
  · rw [lists]
    refine ((agree.once j).filter _).append ?_ fun x kept new => ?_
    · split
      · exact List.nodup_singleton id
      · exact List.nodup_nil
    · split at new
      · obtain rfl := List.mem_singleton.1 new
        simp at kept
      · cases new

theorem found (agree : GroupsAgree w) {member g : Nat} (found : Found w member w' g) :
    GroupsAgree w' := by
  cases found with
  | already _ => exact agree
  | made alone => exact agree.founded alone

theorem join (agree : GroupsAgree w) (id member : Nat) : GroupsAgree (w.join id member).1 := by
  generalize result : w.join id member = r
  have joined := w.join_joined id member
  rw [result] at joined
  cases joined with
  | nobody _ => exact agree
  | absent found _ => exact agree.found found
  | inside found _ => exact agree.found found
  | moves found here _ =>
    have agree' := agree.found found
    exact agree'.moved here (agree'.lt_size found.inside)

theorem led (agree : GroupsAgree w) (g leader : Nat) :
    GroupsAgree (w.onGroup g fun grp => { grp with leader }) := by
  have roster (j : Nat) : (w.onGroup g fun grp => { grp with leader }).roster j = w.roster j :=
    (w.roster_onGroup g (f := fun grp => { grp with leader }) (m := id) (fun _ => rfl)
      (fun _ => rfl) j).trans (ite_self _)
  refine ⟨fun x j => ?_, fun j => ?_⟩
  · rw [roster]
    exact agree.inside x j
  · rw [roster]
    exact agree.once j

theorem perform (agree : GroupsAgree w) (op : Operation) : GroupsAgree (w.perform op) := by
  cases regroups : op.regroups with
  | false => exact agree.of_grouping (w.grouping_perform regroups)
  | true =>
    cases op with
    | create owner kind place =>
      show GroupsAgree (w.createCreature owner kind place).1
      unfold createCreature
      split
      · exact agree.oneMore (w.createCreature_oneMore owner kind place)
      · exact agree
    | join id member => exact agree.join id member
    | lead id member =>
      have joins := agree.join id member
      show GroupsAgree (w.addAsLeader id member)
      unfold addAsLeader
      split
      · rename_i result
        rw [result] at joins
        exact joins.led _ id
      · rename_i result
        rw [result] at joins
        exact joins
    | _ => cases regroups

theorem performAll (agree : GroupsAgree w) (ops : List Operation) :
    GroupsAgree (w.performAll ops) := performAll_keeps agree (fun _ op agree => agree.perform op) ops

end GroupsAgree

/-- **Creatures and groups agree.** After any operations on a world that nobody was in, with any
    numbers of creatures, a creature is put down as being in a group if and only if the group lists
    it. The group then is there and lists it once, and no other group lists it. -/
theorem in_group_iff_listed {w : World} (bare : w.Uninhabited) (ops : List Operation) (id g : Nat) :
    ((w.performAll ops).groupAt id = some (some g) ↔ id ∈ (w.performAll ops).roster g) ∧
      ((w.performAll ops).groupAt id = some (some g) →
        g < (w.performAll ops).groups.size ∧ ((w.performAll ops).roster g).count id = 1 ∧
          ∀ other, other ≠ g → id ∉ (w.performAll ops).roster other) := by
  have agree := (GroupsAgree.of_uninhabited bare).performAll ops
  refine ⟨agree.inside id g, fun inside => ⟨agree.lt_size inside, ?_, fun other apart listed => ?_⟩⟩
  · exact List.count_eq_one_of_mem (agree.once g) ((agree.inside id g).1 inside)
  · have both := ((agree.inside id other).2 listed).symm.trans inside
    exact apart (Option.some.inj (Option.some.inj both))

/-- Three creatures appear. Number 1 joins number 0 and then itself, number 2 makes a group of its
    own, number 1 moves there, and there is no number 7 and no number 9. -/
theorem in_group_iff_listed_reshuffled :
    let ops : List Operation := [.create 0 1 (.heart 0), .create 0 1 (.heart 0),
      .create 0 1 (.heart 0), .join 1 0, .join 1 1, .lead 2 2, .join 1 2, .join 7 0, .join 0 9]
    fresh.Uninhabited ∧ (fresh.performAll ops).roster 0 = [0] ∧
      (fresh.performAll ops).roster 1 = [2, 1] ∧
      (fresh.performAll ops).groupAt 1 = some (some 1) ∧
      ((fresh.performAll ops).roster 1).count 1 = 1 := by
  intro ops
  have moved := in_group_iff_listed fresh_uninhabited ops 1 1
  have listed : (fresh.performAll ops).roster 1 = [2, 1] := by rfl
  have inside := moved.1.2 (by rw [listed]; decide)
  exact ⟨fresh_uninhabited, by rfl, listed, inside, (moved.2 inside).2.1⟩

end World

end DungeonScript
